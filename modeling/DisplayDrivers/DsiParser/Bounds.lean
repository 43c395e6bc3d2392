import DisplayDrivers.DsiParser.Properties
import DisplayDrivers.DsiParser.RoundTrip

/-! # The items of a property and their room (`msm/dsi/dsi_parser.c`)

`prop->items` is allocated before the items are cut out of the text: with one byte for each item of
a string array, else with two bytes for each character. What is counted here is how many pointers
are stored there, and that a text with a `NUL` in it is never left.
-/

namespace DisplayDrivers.DsiParser

open DisplayDrivers.Lib.CString (Mem NUL cstr StringAt)
open DisplayDrivers.Lib.CheckedText

/-! ## How many items a text has -/

def between (start close : Char) (s : List Char) : Option (List Char) :=
  match s.dropWhile (· ≠ start) with
  | [] => none
  | _ :: data => some (data.takeWhile (· ≠ close))

instance (s : List Char) : Decidable (Blanks s) :=
  List.decidableBAll (fun c => Lib.CString.isSpace c = true ∨ c = '*') s

def spacedItems (data : List Char) : ℕ := if ' ' ∈ data then data.count ' ' + 1 else 0

def tupletItems (piece : List Char) : ℕ := ((between '<' '>' piece).map spacedItems).getD 0

def wordItems (data : List Char) : ℕ := (data.splitOn ' ').countP fun word => ¬Blanks word

/-- The pointers that are stored in the items of `dsi_parser_parse_prop`. -/
def itemPointers (v : List Char) : ℕ :=
  if ',' ∈ v then ((v.splitOn ',').map tupletItems).sum
  else
    match between '<' '>' v with
    | some data => data.count ' ' + 1
    | none => ((between '[' ']' v).map wordItems).getD 0

def Fits (w : ℕ) (prop : DsiParserProp) : Prop := w * prop.items.length ≤ prop.itemsSize.getD 0

def RoomFor (w : ℕ) (allocs : Allocs) (name : ℕ) (v : List Char) : Prop :=
  if '"' ∈ v ∧ ',' ∈ v ∧ allocs.strings name = true then w * (v.count ',' + 1) ≤ v.count ',' + 1
  else if '"' ∈ v ∧ ',' ∉ v then True
  else allocs.items name = true → w * itemPointers v ≤ 2 * v.length

/-! ## Cutting and trimming -/

variable {mem mem' : Mem} {e p : ℕ} {s d v : List Char} {prop : DsiParserProp}

theorem count_stays (at_p : StringAt mem p s) (c : Char) :
    Stays (p + s.length) (count p c) mem fun n mem' => n = s.count c ∧ mem' = mem := by
  refine (Stays.string (ended_stringAt at_p) (Nat.le_add_right _ _)).bind ?_
  rintro t mem' - ⟨rfl, rfl⟩
  rw [cstr_stringAt at_p]
  exact .pure _ ⟨rfl, rfl⟩

theorem strlen_stays (at_p : StringAt mem p s) :
    Stays (p + s.length) (strlen p) mem fun n mem' => n = s.length ∧ mem' = mem := by
  refine (Stays.strlen (ended_stringAt at_p) (Nat.le_add_right _ _)).imp ?_
  rintro n mem' - ⟨rfl, rfl, -⟩
  exact ⟨congrArg List.length (cstr_stringAt at_p), rfl⟩

theorem starless_le (mem : Mem) (buf n : ℕ) : starless mem buf n ≤ n := by
  induction n with
  | zero => exact Nat.le_refl 0
  | succ n ih =>
    rw [starless]
    split <;> omega

variable {n : ℕ}

theorem starless_star (mem : Mem) (buf : ℕ) {i : ℕ} (behind : starless mem buf n ≤ i)
    (inside : i < n) :
    Lib.CString.peek mem (buf + i) = '*' := by
  induction n with
  | zero => omega
  | succ n ih =>
    rw [starless] at behind
    split at behind
    · by_cases last : i = n
      · subst last
        assumption
      · exact ih behind (by omega)
    · omega

theorem peek_stringAt (at_p : StringAt mem p s) {i : ℕ} (inside : i < s.length) :
    Lib.CString.peek mem (p + i) = s[i] := by
  obtain ⟨-, -, after, rest⟩ := stringAt_iff.mp at_p
  rw [Lib.CString.peek, List.getD_eq_getElem?_getD, ← List.getElem?_drop, rest,
    List.getElem?_append_left inside, List.getElem?_eq_getElem inside]
  rfl

theorem stringAt_poke (at_p : StringAt mem p s) (inside : n ≤ s.length) :
    StringAt (Lib.CString.poke mem (p + n) NUL) p (s.take n) := by
  obtain ⟨clean, before, after, rfl, rfl⟩ := at_p
  refine ⟨fun member => clean (List.mem_of_mem_take member), before, ?_⟩
  have split : before ++ s ++ NUL :: after = before ++ s.take n ++ (s.drop n ++ NUL :: after) := by
    calc before ++ s ++ NUL :: after = before ++ (s.take n ++ s.drop n) ++ NUL :: after := by
          rw [List.take_append_drop]
      _ = _ := by simp only [List.append_assoc]
  have place : before.length + n = (before ++ s.take n).length := by
    rw [List.length_append, List.length_take_of_le inside]
  refine ⟨(s.drop n ++ NUL :: after).tail, ?_, rfl⟩
  rw [split, place, Lib.CString.poke, List.set_append_right _ _ (Nat.le_refl _), Nat.sub_self]
  cases left : s.drop n ++ NUL :: after with
  | nil => simp at left
  | cons c more => rfl

theorem clearTail_stays (at_p : StringAt mem p s) :
    Stays (p + s.length) (clearTail p) mem fun q mem' =>
      q = p ∧ ∃ n ≤ s.length, (∀ c ∈ s.drop n, c = '*') ∧ StringAt mem' p (s.take n) := by
  refine (strlen_stays at_p).bind ?_
  rintro size mem' - ⟨rfl, rfl⟩
  refine .ite (fun empty => ?_) fun _ => ?_
  · refine .pure p ⟨rfl, s.length, Nat.le_refl _, ?_, ?_⟩
    · rw [List.drop_length]
      exact fun _ member => nomatch member
    · rwa [List.take_length]
  · have low := starless_le mem' p s.length
    refine .get ((Stays.store (ended_stringAt at_p) (Nat.add_le_add_left low p)).bind ?_)
    rintro - - - rfl
    refine .pure p ⟨rfl, _, low, fun c member => ?_, stringAt_poke at_p low⟩
    obtain ⟨i, inside, rfl⟩ := List.getElem_of_mem member
    rw [List.length_drop] at inside
    rw [List.getElem_drop, ← peek_stringAt at_p (by omega)]
    exact starless_star mem' p (Nat.le_add_right _ _) (by omega)

theorem between_none {start close : Char} (absent : start ∉ s) : between start close s = none := by
  have all : s.dropWhile (· ≠ start) = [] :=
    List.dropWhile_eq_nil_iff.mpr fun c member => decide_eq_true fun same : c = start =>
      absent (same ▸ member)
  rw [between, all]

theorem between_append {start close : Char} {a b : List Char} (first : start ∉ a) :
    between start close (a ++ start :: b) = some (b.takeWhile (· ≠ close)) := by
  have all : ∀ c ∈ a, decide (c ≠ start) = true :=
    fun c member => decide_eq_true fun same : c = start => first (same ▸ member)
  rw [between, List.dropWhile_append_of_pos all, List.dropWhile_cons_of_neg (by simp)]

variable {c : Char}

theorem takeWhile_absent (absent : c ∉ s) : s.takeWhile (· ≠ c) = s :=
  List.takeWhile_eq_self_iff.mpr fun d member => decide_eq_true fun same : d = c =>
    absent (same ▸ member)

theorem takeWhile_first {a b : List Char} (first : c ∉ a) : (a ++ c :: b).takeWhile (· ≠ c) = a :=
  Lib.CString.takeWhile_middle (fun d member => decide_eq_true fun same : d = c =>
    first (same ▸ member))
    (by simp)

theorem getData_stays (at_p : StringAt mem p s) (start close : Char) :
    Stays (p + s.length) (getData start close p) mem fun data mem' =>
      (between start close s = none ∧ data = none ∧ mem' = mem) ∨
        ∃ d q n, between start close s = some d ∧ data = some q ∧ (∀ c ∈ d.drop n, c = '*') ∧
          q + (d.take n).length ≤ p + s.length ∧ StringAt mem' q (d.take n) := by
  refine (Stays.strsep_at at_p).bind ?_
  rintro cut mem' - (⟨absent, rfl, rfl⟩ | ⟨a, b, rfl, first, rfl, -, rest⟩)
  · exact .pure _ (.inl ⟨between_none absent, rfl, rfl⟩)
  · have whole : p + a.length + 1 + b.length = p + (a ++ start :: b).length := by
      rw [List.length_append, List.length_cons]
      omega
    rw [← whole]
    dsimp only
    refine (Stays.strsep_at rest).bind ?_
    rintro cut mem'' - (⟨absent, rfl, rfl⟩ | ⟨d, more, rfl, first', rfl, data, -⟩)
    · refine ((clearTail_stays rest).bind ?_)
      rintro q last - ⟨rfl, n, low, stars, text⟩
      refine .pure _ (.inr ⟨b, _, n, ?_, rfl, stars, ?_, text⟩)
      · rw [between_append first, takeWhile_absent absent]
      · rw [List.length_take]
        omega
    · have inside : p + a.length + 1 + d.length ≤ p + a.length + 1 +
        (d ++ close :: more).length := by
        rw [List.length_append]
        omega
      refine ((clearTail_stays data).mono inside).bind ?_
      rintro q last - ⟨rfl, n, low, stars, text⟩
      refine .pure _ (.inr ⟨d, _, n, ?_, rfl, stars, ?_, text⟩)
      · rw [between_append first, takeWhile_first first']
      · rw [List.length_take]
        omega

/-! ## What is left of a text without its blanks -/

theorem first_visible (s : List Char) (some_visible : ∃ c ∈ s, Lib.CString.isSpace c = false) :
    ∃ w c more, s = w ++ c :: more ∧ (∀ a ∈ w, Lib.CString.isSpace a = true) ∧
      Lib.CString.isSpace c = false := by
  induction s with
  | nil =>
    obtain ⟨_, member, -⟩ := some_visible
    cases member
  | cons b s ih =>
    cases blank : Lib.CString.isSpace b with
    | false => exact ⟨[], b, s, rfl, List.forall_mem_nil _, blank⟩
    | true =>
      obtain ⟨c, member, visible⟩ := some_visible
      have later : c ∈ s := by
        cases member with
        | head =>
          rw [blank] at visible
          cases visible
        | tail _ later => exact later
      obtain ⟨w, d, more, rfl, spaces, solid⟩ := ih ⟨c, later, visible⟩
      refine ⟨b :: w, d, more, rfl, fun a member => ?_, solid⟩
      cases member with
      | head => exact blank
      | tail _ inside => exact spaces a inside

theorem exists_word (some_visible : ∃ c ∈ s, Lib.CString.isSpace c = false) :
    ∃ w word w', s = w ++ word ++ w' ∧ Lib.CString.Word word ∧
      (∀ a ∈ w, Lib.CString.isSpace a = true) ∧ ∀ a ∈ w', Lib.CString.isSpace a = true := by
  obtain ⟨w, c, more, rfl, spaces, solid⟩ := first_visible s some_visible
  obtain ⟨w', a, init, reversed, spaces', solid'⟩ :=
    first_visible (c :: more).reverse ⟨c, List.mem_reverse.mpr List.mem_cons_self, solid⟩
  have whole : c :: more = (init.reverse ++ [a]) ++ w'.reverse := by
    rw [← List.reverse_reverse (c :: more), reversed]
    simp
  refine ⟨w, init.reverse ++ [a], w'.reverse, ?_, ⟨?_, init.reverse, a, rfl, solid'⟩, spaces, ?_⟩
  · rw [whole, List.append_assoc w]
  · cases starts : init.reverse with
    | nil =>
      rw [starts] at whole
      injection whole with same _
      exact ⟨c, [], by rw [same]; rfl, solid⟩
    | cons d rest =>
      rw [starts] at whole
      injection whole with same _
      exact ⟨d, rest ++ [a], rfl, same ▸ solid⟩
  · exact fun b member => spaces' b (List.mem_reverse.mp member)

theorem unstar_spaces : (∀ c ∈ unstar s, Lib.CString.isSpace c = true) ↔ Blanks s := by
  refine ⟨fun spaces c member => ?_, unstar_blanks⟩
  have space := spaces _ (List.mem_map_of_mem member)
  by_cases star : c = '*'
  · exact .inr star
  · rw [if_neg star] at space
    exact .inl space

theorem strim_spaces (at_p : StringAt mem p s) (spaces : ∀ c ∈ s, Lib.CString.isSpace c = true) :
    cstr (Lib.CString.strim mem p).1 (Lib.CString.strim mem p).2 = [] := by
  obtain ⟨clean, before, after, rfl, rfl⟩ := at_p
  by_cases empty : s = []
  · subst empty
    rw [Lib.CString.strim, Lib.CString.strlen_middle clean, if_pos List.length_nil,
      Lib.CString.cstr_middle clean]
  · have some : s.length ≠ 0 := fun zero => empty (List.length_eq_zero_iff.mp zero)
    have trimmed : Lib.CString.trimmed (before ++ s ++ NUL :: after) before.length
      s.length = 0 := by
      have all : Lib.CString.trimmed (before ++ ([] ++ s) ++ NUL :: after) before.length
        (0 + s.length) = 0 :=
        Lib.CString.trimmed_spaces spaces
      simpa using all
    obtain ⟨c, more, rfl⟩ := List.exists_cons_of_ne_nil empty
    have cut : Lib.CString.poke (before ++ (c :: more) ++ NUL :: after) (before.length + 0) NUL =
        before ++ [] ++ NUL :: (more ++ NUL :: after) := by
      have memory : before ++ (c :: more) ++ NUL :: after =
        before ++ [] ++ c :: (more ++ NUL :: after) := by
        simp
      rw [memory]
      exact Lib.CString.poke_middle before [] _ c NUL
    have stays : Lib.CString.skipSpaces (before ++ [] ++ NUL :: (more ++ NUL :: after))
      before.length =
        before.length := by
      rw [Lib.CString.skipSpaces, List.append_assoc, List.drop_left]
      rfl
    rw [Lib.CString.strim, Lib.CString.strlen_middle clean, if_neg some, trimmed, cut]
    dsimp only
    rw [stays, Lib.CString.cstr_middle List.not_mem_nil]

theorem strim_visible (at_p : StringAt mem p s)
    (some_visible : ∃ c ∈ s, Lib.CString.isSpace c = false) :
    cstr (Lib.CString.strim mem p).1 (Lib.CString.strim mem p).2 ≠ [] := by
  obtain ⟨clean, before, after, rfl, rfl⟩ := at_p
  obtain ⟨w, word, w', rfl, is, spaces, spaces'⟩ := exists_word some_visible
  obtain ⟨left, -, trimmed⟩ := Lib.CString.strim_middle before after is spaces spaces' clean
  have inside : NUL ∉ word := fun member =>
    clean (List.mem_append_left _ (List.mem_append_right _ member))
  have memory : before ++ (w ++ word) ++ NUL :: (left ++ after) =
    (before ++ w) ++ word ++ NUL :: (left ++ after) := by
    simp
  rw [trimmed, memory, ← List.length_append, Lib.CString.cstr_middle inside]
  obtain ⟨c, more, rfl, -⟩ := is.first
  exact List.cons_ne_nil c more

theorem trim_stays (at_p : StringAt mem p s) :
    Stays (p + s.length) (trim p) mem fun q mem' => q ≤ p + s.length ∧
    (cstr mem' q = [] ↔ Blanks s) := by
  have ended := ended_stringAt at_p
  refine (Stays.strreplace ended (Nat.le_add_right _ _)).bind ?_
  rintro - mem' kept rfl
  have unstarred : StringAt (Lib.CString.strreplace mem p '*' ' ') p (unstar s) := by
    obtain ⟨clean, before, after, rfl, rfl⟩ := at_p
    rw [Lib.CString.strreplace_middle clean]
    exact Lib.CString.stringAt_middle (unstar_clean clean)
  refine (Stays.strim (kept.ended ended) (Nat.le_add_right _ _)).imp ?_
  rintro q last - ⟨rfl, rfl, low⟩
  refine ⟨low, ⟨fun nothing => unstar_spaces.mp fun c member => ?_, fun blanks => ?_⟩⟩
  · cases visible : Lib.CString.isSpace c with
    | true => rfl
    | false => exact absurd nothing (strim_visible unstarred ⟨c, member, visible⟩)
  · exact strim_spaces unstarred (unstar_spaces.mpr blanks)

/-! ## The loops -/

def Gains (e n : ℕ) (prop prop' : DsiParserProp) : Prop :=
  ∃ items, prop' = { prop with items := prop.items ++ items } ∧ items.length = n ∧
    ∀ item ∈ items, ∃ q ≤ e, item = some q

theorem Gains.none (e : ℕ) (prop : DsiParserProp) : Gains e 0 prop prop :=
  ⟨[], by rw [List.append_nil], rfl, fun _ member => nomatch member⟩

theorem Gains.push {q : ℕ} (low : q ≤ e) (prop : DsiParserProp) :
    Gains e 1 prop (prop.push (some q)) :=
  ⟨[some q], rfl, rfl, fun _ member => ⟨q, low, List.mem_singleton.mp member⟩⟩

variable {prop' : DsiParserProp}

theorem Gains.trans {n' : ℕ} {prop'' : DsiParserProp} (first : Gains e n prop prop')
    (second : Gains e n' prop' prop'') : Gains e (n + n') prop prop'' := by
  obtain ⟨items, rfl, rfl, inside⟩ := first
  obtain ⟨items', rfl, rfl, inside'⟩ := second
  refine ⟨items ++ items', by rw [List.append_assoc], List.length_append, fun item member => ?_⟩
  exact (List.mem_append.mp member).elim (inside item) (inside' item)

theorem Gains.mono {e' : ℕ} (gains : Gains e n prop prop') (later : e ≤ e') :
    Gains e' n prop prop' := by
  obtain ⟨items, same, count, inside⟩ := gains
  refine ⟨items, same, count, fun item member => ?_⟩
  obtain ⟨q, low, at_q⟩ := inside item member
  exact ⟨q, Nat.le_trans low later, at_q⟩

theorem count_split {a b : List Char} (first : c ∉ a) : (a ++ c :: b).count c = b.count c + 1 := by
  rw [List.count_append, List.count_eq_zero.mpr first, List.count_cons_self, Nat.zero_add]

theorem length_split (p : ℕ) (a b : List Char) (c : Char) :
    p + a.length + 1 + b.length = p + (a ++ c :: b).length := by
  rw [List.length_append, List.length_cons]
  omega

theorem tupletsDataLoop_stays (enough : s.count ' ' < n) (at_p : StringAt mem p s)
    (prop : DsiParserProp) (middleOfTx : Bool) :
    Stays (p + s.length) (tupletsDataLoop n prop p middleOfTx) mem fun out _ =>
      Gains (p + s.length) (if middleOfTx = true ∨ ' ' ∈ s then s.count ' ' + 1 else 0) prop out.1 ∧
        out.2 = (middleOfTx || decide (' ' ∈ s)) := by
  induction n generalizing s p mem prop middleOfTx with
  | zero => exact absurd enough (Nat.not_lt_zero _)
  | succ n ih =>
    rw [tupletsDataLoop]
    refine (Stays.strsep_at at_p).bind ?_
    rintro cut mem' - (⟨absent, rfl, rfl⟩ | ⟨a, b, rfl, first, rfl, token, rest⟩)
    · dsimp only
      rw [List.count_eq_zero.mpr absent, decide_eq_false absent, Bool.or_false]
      refine .ite (fun middle => ?_) fun middle => ?_
      · refine (trim_stays at_p).bind ?_
        rintro q mem' - ⟨low, -⟩
        rw [if_pos (.inl middle), middle]
        exact .pure _ ⟨.push low prop, rfl⟩
      · rw [if_neg (not_or.mpr ⟨middle, absent⟩), Bool.eq_false_of_not_eq_true middle]
        exact .pure _ ⟨.none _ prop, rfl⟩
    · have inside : ' ' ∈ a ++ ' ' :: b := List.mem_append_right a List.mem_cons_self
      have before : p + a.length ≤ p + (a ++ ' ' :: b).length := by
        rw [← length_split]
        omega
      rw [count_split first] at enough
      have counted : middleOfTx = true ∨ ' ' ∈ a ++ ' ' :: b := .inr inside
      rw [if_pos counted, decide_eq_true inside, Bool.or_true, count_split first]
      dsimp only
      refine .before before (trim_stays token) ?_
      rintro q mem'' kept ⟨low, -⟩
      have later := ih (by omega) (kept.stringAt rest (by omega)) (prop.push (some q)) true
      rw [length_split, if_pos (.inl rfl), Bool.true_or] at later
      refine later.imp ?_
      rintro out _ - ⟨gains, middle⟩
      refine ⟨?_, middle⟩
      rw [Nat.add_comm (b.count ' ' + 1)]
      exact (Gains.push (Nat.le_trans low before) prop).trans gains

theorem length_stringAt (at_p : StringAt mem p s) : p + s.length < mem.length :=
  (ended_stringAt at_p).lt

theorem count_lt_of_stringAt (at_p : StringAt mem p s) (c : Char) : s.count c < mem.length + 1 := by
  have inside := length_stringAt at_p
  have few : s.count c ≤ s.length := List.count_le_length
  omega

theorem count_take_stars (stars : ∀ c ∈ d.drop n, c = '*') :
    (d.take n).count ' ' = d.count ' ' := by
  have none : (d.drop n).count ' ' = 0 := List.count_eq_zero.mpr fun member => by
    have same := stars ' ' member
    cases same
  calc (d.take n).count ' ' = (d.take n).count ' ' + (d.drop n).count ' ' := by
        rw [none, Nat.add_zero]
    _ = d.count ' ' := by rw [← List.count_append, List.take_append_drop]

theorem space_take_stars (stars : ∀ c ∈ d.drop n, c = '*') : ' ' ∈ d.take n ↔ ' ' ∈ d := by
  rw [← List.count_pos_iff, ← List.count_pos_iff, count_take_stars stars]

theorem getTupletsData_stays (stars : ∀ c ∈ d.drop n, c = '*') (at_p : StringAt mem p (d.take n))
    (prop : DsiParserProp) :
    Stays (p + (d.take n).length) (getTupletsData prop (some p)) mem fun out _ =>
      Gains (p + (d.take n).length) (spacedItems d) prop out.1 ∧ out.2 = decide (' ' ∈ d) := by
  have looped := tupletsDataLoop_stays (count_lt_of_stringAt at_p ' ') at_p prop false
  simp only [Bool.false_eq_true, false_or, Bool.false_or, space_take_stars stars,
    count_take_stars stars] at looped
  exact .get looped

theorem tupletsTurn_stays (at_p : StringAt mem p s) (prop : DsiParserProp) {more middleOfTx : Bool}
    (turns : (more || middleOfTx) = true) :
    Stays (p + s.length) (tupletsTurn prop p more middleOfTx) mem fun out _ =>
      Gains (p + s.length) (tupletItems s) prop out.1 ∧ out.2 = true := by
  rw [tupletsTurn, if_pos turns]
  refine (getData_stays at_p '<' '>').bind ?_
  rintro data mem' - (⟨absent, rfl, rfl⟩ | ⟨d, q, n, found, rfl, stars, low, text⟩)
  · have none : Stays (p + s.length) (pure (prop, false)) mem' fun out _ =>
      Gains (p + s.length) 0 prop out.1 :=
      .pure _ (.none _ prop)
    refine none.bind ?_
    rintro out last - gains
    rw [tupletItems, absent]
    exact .pure _ ⟨gains, rfl⟩
  · refine ((getTupletsData_stays stars text prop).mono low).bind ?_
    rintro out last - ⟨gains, -⟩
    rw [tupletItems, found]
    exact .pure _ ⟨gains.mono low, rfl⟩

theorem tupletsLoop_stays (enough : s.count ',' < n) (at_p : StringAt mem p s)
    (prop : DsiParserProp)
    (middleOfTx : Bool) :
    Stays (p + s.length) (tupletsLoop n prop p middleOfTx) mem fun out mem' =>
      (middleOfTx = true ∨ ',' ∈ s →
        Gains (p + s.length) ((s.splitOn ',').map tupletItems).sum prop out.1 ∧ out.2 = true) ∧
      (¬(middleOfTx = true ∨ ',' ∈ s) → out = (prop, false) ∧ mem' = mem) := by
  induction n generalizing s p mem prop middleOfTx with
  | zero => exact absurd enough (Nat.not_lt_zero _)
  | succ n ih =>
    rw [tupletsLoop]
    refine (Stays.strsep_at at_p).bind ?_
    rintro cut mem' - (⟨absent, rfl, rfl⟩ | ⟨a, b, rfl, first, rfl, token, rest⟩)
    · dsimp only
      by_cases middle : middleOfTx = true
      · refine (tupletsTurn_stays at_p prop (by rw [middle]; rfl)).bind ?_
        rintro out last - ⟨gains, true⟩
        refine .pure _ ⟨fun _ => ⟨?_, true⟩, fun not => absurd (.inl middle) not⟩
        simpa [List.splitOn_eq_singleton absent] using gains
      · have skipped : tupletsTurn prop p (none : Option ℕ).isSome middleOfTx =
            return (prop, middleOfTx) := by
          rw [Bool.eq_false_of_not_eq_true middle]
          rfl
        rw [skipped, Bool.eq_false_of_not_eq_true middle]
        refine .pure _ ⟨fun some => ?_, fun _ => ⟨rfl, rfl⟩⟩
        exact absurd some (not_or.mpr ⟨Bool.false_ne_true, absent⟩)
    · have inside : ',' ∈ a ++ ',' :: b := List.mem_append_right a List.mem_cons_self
      have before : p + a.length ≤ p + (a ++ ',' :: b).length := by
        rw [← length_split]
        omega
      rw [count_split first] at enough
      refine .before before (tupletsTurn_stays token prop rfl) ?_
      rintro turn mem'' kept ⟨gains, middle⟩
      have later := ih (by omega) (kept.stringAt rest (by omega)) turn.1 turn.2
      rw [length_split] at later
      refine later.imp ?_
      rintro out _ - ⟨more, -⟩
      obtain ⟨gains', middle'⟩ := more (.inl middle)
      refine ⟨fun _ => ⟨?_, middle'⟩, fun not => absurd (.inr inside) not⟩
      rw [List.splitOn_append_cons_self_of_not_mem first, List.map_cons, List.sum_cons]
      exact (gains.mono before).trans gains'

theorem stringsTurn_stays (at_p : StringAt mem p s) (prop : DsiParserProp) {more middleOfTx : Bool}
    (turns : ((more || middleOfTx) && decide (prop.items.length < prop.itemsSize.getD 0)) = true) :
    Stays (p + s.length) (stringsTurn prop p more middleOfTx) mem fun out _ =>
      ∃ item, out = (prop.push item, true) := by
  rw [stringsTurn, if_pos turns]
  refine (getData_stays at_p '"' '"').bind ?_
  intro item mem' _ _
  exact .pure _ ⟨item, rfl⟩

theorem stringsLoop_stays (enough : s.count ',' < n) (at_p : StringAt mem p s)
    (prop : DsiParserProp)
    (middleOfTx : Bool) (starts : middleOfTx = true ∨ ',' ∈ s)
    (room : prop.itemsSize = some (prop.items.length + (s.count ',' + 1))) :
    Stays (p + s.length) (stringsLoop n prop p middleOfTx) mem fun out _ =>
      ∃ items, out = ({ prop with items := prop.items ++ items }, true) ∧
        items.length = s.count ',' + 1 := by
  induction n generalizing s p mem prop middleOfTx with
  | zero => exact absurd enough (Nat.not_lt_zero _)
  | succ n ih =>
    have free : prop.items.length < prop.itemsSize.getD 0 := by
      rw [room, Option.getD_some]
      omega
    rw [stringsLoop]
    refine (Stays.strsep_at at_p).bind ?_
    rintro cut mem' - (⟨absent, rfl, rfl⟩ | ⟨a, b, rfl, first, rfl, token, rest⟩)
    · have middle := starts.resolve_right absent
      have turns : ((none : Option ℕ).isSome || middleOfTx) && decide
        (prop.items.length < prop.itemsSize.getD 0) := by
        rw [middle, decide_eq_true free]
        rfl
      refine (stringsTurn_stays at_p prop turns).bind ?_
      rintro out last - ⟨item, rfl⟩
      exact .pure _ ⟨[item], rfl, by rw [List.count_eq_zero.mpr absent]; rfl⟩
    · have before : p + a.length ≤ p + (a ++ ',' :: b).length := by
        rw [← length_split]
        omega
      have turns : ((some (p + a.length + 1)).isSome || middleOfTx) &&
          decide (prop.items.length < prop.itemsSize.getD 0) := by
        rw [decide_eq_true free]
        rfl
      rw [count_split first] at enough room ⊢
      refine .before before (stringsTurn_stays token prop turns) ?_
      rintro turn mem'' kept ⟨item, rfl⟩
      have room' : (prop.push item).itemsSize = some
        ((prop.push item).items.length + (b.count ',' + 1)) := by
        show prop.itemsSize = _
        rw [room, DsiParserProp.push, List.length_append, List.length_singleton]
        congr 1
        omega
      have later :=
        ih (by omega) (kept.stringAt rest (by omega)) (prop.push item) true (.inl rfl) room'
      rw [length_split] at later
      refine later.imp ?_
      rintro out _ - ⟨items, rfl, count⟩
      refine ⟨item :: items, ?_, ?_⟩
      · rw [DsiParserProp.push, List.append_assoc, List.singleton_append]
      · rw [List.length_cons, count]

theorem gains_word {q : ℕ} (low : q ≤ e) (nothing : cstr mem q = [] ↔ Blanks s)
    (prop : DsiParserProp) :
    Gains e (if Blanks s then 0 else 1) prop
      (if Lib.CString.strlen mem q = 0 then prop else prop.push (some q)) := by
  have empty : Lib.CString.strlen mem q = 0 ↔ Blanks s := List.length_eq_zero_iff.trans nothing
  by_cases blanks : Blanks s
  · rw [if_pos blanks, if_pos (empty.mpr blanks)]
    exact .none e prop
  · rw [if_neg blanks, if_neg (mt empty.mp blanks)]
    exact .push low prop

theorem wordItems_single (absent : ' ' ∉ s) : wordItems s = if Blanks s then 0 else 1 := by
  rw [wordItems, List.splitOn_eq_singleton absent, List.countP_singleton]
  split <;> simp_all

theorem wordItems_split {a b : List Char} (first : ' ' ∉ a) :
    wordItems (a ++ ' ' :: b) = (if Blanks a then 0 else 1) + wordItems b := by
  rw [wordItems, List.splitOn_append_cons_self_of_not_mem first, List.countP_cons, Nat.add_comm]
  congr 1
  split <;> simp_all

theorem wordsLoop_stays (enough : s.count ' ' < n) (at_p : StringAt mem p s)
    (prop : DsiParserProp) :
    Stays (p + s.length) (wordsLoop n prop p) mem fun out _ => Gains (p + s.length)
    (wordItems s) prop out := by
  induction n generalizing s p mem prop with
  | zero => exact absurd enough (Nat.not_lt_zero _)
  | succ n ih =>
    rw [wordsLoop]
    refine (strlen_stays at_p).bind ?_
    rintro size mem' - ⟨rfl, rfl⟩
    refine .ite (fun empty => ?_) fun _ => ?_
    · obtain rfl := List.length_eq_zero_iff.mp empty
      exact .pure _ (.none _ prop)
    · refine (Stays.strsep_at at_p).bind ?_
      rintro cut mem' - (⟨absent, rfl, rfl⟩ | ⟨a, b, rfl, first, rfl, token, rest⟩)
      · refine (trim_stays at_p).bind ?_
        rintro q mem'' kept ⟨low, nothing⟩
        refine (Stays.strlen (kept.ended (ended_stringAt at_p)) low).bind ?_
        rintro size last - ⟨rfl, rfl, -⟩
        rw [wordItems_single absent]
        exact .pure _ (gains_word low nothing prop)
      · have before : p + a.length ≤ p + (a ++ ' ' :: b).length := by
          rw [← length_split]
          omega
        rw [count_split first] at enough
        refine .before before (trim_stays token) ?_
        rintro q mem'' kept ⟨low, nothing⟩
        refine .before before (Stays.strlen (kept.ended (ended_stringAt token)) low) ?_
        rintro size last - ⟨rfl, rfl, -⟩
        have gains := gains_word (Nat.le_trans low before) nothing prop
        have later := ih (by omega) (kept.stringAt rest (by omega))
          (if Lib.CString.strlen last q = 0 then prop else prop.push (some q))
        rw [length_split] at later
        refine later.imp ?_
        rintro out _ - more
        rw [wordItems_split first]
        exact gains.trans more

theorem wordItems_stars {stars : List Char} (all : ∀ c ∈ stars, c = '*') (d : List Char) :
    wordItems (d ++ stars) = wordItems d := by
  have blanks : Blanks stars := fun c member => .inr (all c member)
  have free : ' ' ∉ stars := fun member => by
    have same := all ' ' member
    cases same
  induction left : d.count ' ' generalizing d with
  | zero =>
    have absent : ' ' ∉ d := List.count_eq_zero.mp left
    have same : Blanks (d ++ stars) ↔ Blanks d := by
      refine ⟨fun both c member => both c (List.mem_append_left _ member), fun first c member => ?_⟩
      exact (List.mem_append.mp member).elim (first c) (blanks c)
    have whole : ' ' ∉ d ++ stars := fun member => (List.mem_append.mp member).elim absent free
    rw [wordItems_single whole, wordItems_single absent]
    simp only [same]
  | succ n ih =>
    have found : ' ' ∈ d := List.count_pos_iff.mp (by omega)
    obtain ⟨a, b, rfl, first⟩ := List.eq_append_cons_of_mem found
    rw [count_split first] at left
    rw [List.append_assoc, List.cons_append, wordItems_split first, wordItems_split first,
      ih b (by omega)]

/-! ## One property -/

def Keeps (prop prop' : DsiParserProp) : Prop :=
  prop'.name = prop.name ∧ prop'.raw = prop.raw ∧ prop'.itemsSize = prop.itemsSize

theorem Gains.keeps (gains : Gains e n prop prop') : Keeps prop prop' := by
  obtain ⟨items, rfl, -, -⟩ := gains
  exact ⟨rfl, rfl, rfl⟩

theorem Gains.length (gains : Gains e n prop prop')
    (first : prop.items = []) : prop'.items.length = n := by
  obtain ⟨items, rfl, rfl, -⟩ := gains
  rw [first, List.nil_append]

theorem Gains.inside (gains : Gains e n prop prop')
    (first : prop.items = []) : ∀ item ∈ prop'.items, ∃ q ≤ e, item = some q := by
  obtain ⟨items, rfl, -, inside⟩ := gains
  rwa [first, List.nil_append]

theorem intBytes_stays (ended : Ended e mem) (base : ℕ) {items : List (Option ℕ)}
    (inside : ∀ item ∈ items, ∃ q ≤ e, item = some q) :
    Stays e (intBytes base items) mem fun _ mem' => mem' = mem := by
  induction items with
  | nil => exact .pure _ rfl
  | cons item items ih =>
    obtain ⟨q, low, rfl⟩ := inside item List.mem_cons_self
    refine (Stays.string ended low).bind ?_
    rintro text mem' - ⟨rfl, -⟩
    refine (ih fun item member => inside item (List.mem_cons_of_mem _ member)).bind ?_
    rintro bytes mem'' - rfl
    exact .pure _ rfl

theorem getIntValue_stays (ended : Ended e mem) (allocated : Bool) (type : PropType)
    (base : ℕ) (inside : ∀ item ∈ prop.items, ∃ q ≤ e, item = some q) :
    Stays e (getIntValue allocated prop type base) mem fun out _ =>
      Keeps prop out ∧ out.items = prop.items := by
  refine .ite (fun _ => ?_) fun _ => .pure _ ⟨⟨rfl, rfl, rfl⟩, rfl⟩
  refine (intBytes_stays ended base inside).bind ?_
  intro bytes mem' _ _
  exact .pure _ ⟨⟨rfl, rfl, rfl⟩, rfl⟩

theorem gained_stays (ended : Ended e mem) (allocated : Bool) (type : PropType) (base : ℕ)
    (gains : Gains e n prop prop') (first : prop.items = []) :
    Stays e (getIntValue allocated prop' type base >>= fun out => return (out, true))
    mem fun out _ =>
      Keeps prop out.1 ∧ out.1.items.length = n ∧ out.2 = true := by
  refine (getIntValue_stays ended allocated type base (gains.inside first)).bind ?_
  rintro out mem' - ⟨⟨name, raw, size⟩, items⟩
  obtain ⟨name', raw', size'⟩ := gains.keeps
  refine .pure _ ⟨⟨name.trans name', raw.trans raw', size.trans size'⟩, ?_, rfl⟩
  rw [items]
  exact gains.length first

theorem parseItems_stays (at_p : StringAt mem p v) (allocated : Bool) (first : prop.items = []) :
    Stays (p + v.length) (parseItems allocated prop p) mem fun out _ =>
      Keeps prop out.1 ∧ out.1.items.length = itemPointers v ∧
        (out.2 = false → ',' ∉ v ∧ itemPointers v = 0) := by
  rw [parseItems]
  have looped := tupletsLoop_stays (count_lt_of_stringAt at_p ',') at_p prop false
  refine Stays.bind (Stays.get looped) ?_
  rintro tuplets mem' kept ⟨tuple, plain⟩
  have ended := kept.ended (ended_stringAt at_p)
  by_cases comma : ',' ∈ v
  · obtain ⟨gains, found⟩ := tuple (.inr comma)
    rw [if_pos found, itemPointers, if_pos comma]
    refine (gained_stays ended allocated .intSetArray 0 gains first).imp ?_
    rintro out _ - ⟨keeps, count, found⟩
    exact ⟨keeps, count, fun other => Bool.noConfusion (found.symm.trans other)⟩
  · obtain ⟨rfl, rfl⟩ := plain (not_or.mpr ⟨Bool.false_ne_true, comma⟩)
    rw [if_neg Bool.false_ne_true, itemPointers, if_neg comma]
    refine (getData_stays at_p '<' '>').bind ?_
    rintro value mem'' kept (⟨absent, rfl, rfl⟩ | ⟨d, q, n, found, rfl, stars, low, text⟩)
    · rw [absent]
      dsimp only
      refine (getData_stays at_p '[' ']').bind ?_
      rintro value mem₃ kept (⟨absent, rfl, rfl⟩ | ⟨d, q, n, found, rfl, stars, low, text⟩)
      · rw [absent]
        exact .pure _ ⟨⟨rfl, rfl, rfl⟩, by rw [first]; rfl, fun _ => ⟨comma, rfl⟩⟩
      · have words := wordsLoop_stays (count_lt_of_stringAt text ' ') text prop
        rw [← wordItems_stars stars, List.take_append_drop] at words
        rw [found]
        refine .get ((words.mono low).bind ?_)
        rintro prop' last kept' gains
        refine (gained_stays (kept'.ended (kept.ended ended)) allocated .intArray 16
          (gains.mono low) first).imp ?_
        rintro out _ - ⟨keeps, count, found⟩
        exact ⟨keeps, count, fun other => Bool.noConfusion (found.symm.trans other)⟩
    · rw [found]
      dsimp only
      refine ((getTupletsData_stays stars text prop).mono low).bind ?_
      rintro set last kept' ⟨gains, spaced⟩
      by_cases space : ' ' ∈ d
      · rw [decide_eq_true space] at spaced
        rw [spacedItems, if_pos space] at gains
        rw [if_pos spaced]
        refine (gained_stays (kept'.ended (kept.ended ended)) allocated .intSet 0
          (gains.mono low) first).imp ?_
        rintro out _ - ⟨keeps, count, found⟩
        exact ⟨keeps, count, fun other => Bool.noConfusion (found.symm.trans other)⟩
      · rw [decide_eq_false space] at spaced
        rw [spacedItems, if_neg space] at gains
        rw [if_neg (by rw [spaced]; exact Bool.false_ne_true), List.count_eq_zero.mpr space]
        refine .pure _ ⟨gains.keeps, ?_, fun other => Bool.noConfusion other⟩
        rw [DsiParserProp.push, List.length_append, gains.length first]
        rfl

theorem getStrings_stays (at_p : StringAt mem p v) (allocated : Bool) (first : prop.items = []) :
    Stays (p + v.length) (getStrings allocated prop p) mem fun out mem' =>
      (¬('"' ∈ v ∧ ',' ∈ v ∧ allocated = true) ∧ ¬('"' ∈ v ∧ ',' ∉ v) ∧
        out = (prop, false) ∧ mem' = mem) ∨
      ('"' ∈ v ∧ ',' ∉ v ∧ Keeps prop out.1 ∧ out.1.items = [] ∧ out.2 = true) ∨
      ('"' ∈ v ∧ ',' ∈ v ∧ allocated = true ∧ out.1.name = prop.name ∧ out.1.raw = prop.raw ∧
        out.1.itemsSize = some (v.count ',' + 1) ∧ out.1.items.length = v.count ',' + 1 ∧
          out.2 = true) := by
  rw [getStrings]
  refine (count_stays at_p '"').bind ?_
  rintro quotes mem' - ⟨rfl, rfl⟩
  refine .ite (fun none => ?_) fun some => ?_
  · have absent : '"' ∉ v := List.count_eq_zero.mp none
    exact .pure _ (.inl ⟨fun has => absent has.1, fun has => absent has.1, rfl, rfl⟩)
  · have quote : '"' ∈ v := List.count_pos_iff.mp (Nat.pos_of_ne_zero some)
    refine (count_stays at_p ',').bind ?_
    rintro commas mem' - ⟨rfl, rfl⟩
    refine .ite (fun none => ?_) fun some => ?_
    · have comma : ',' ∉ v := List.count_eq_zero.mp none
      refine (getData_stays at_p '"' '"').bind ?_
      rintro value last - (⟨absent, -, -⟩ | ⟨d, q, n, -, rfl, -, -, -⟩)
      · obtain ⟨a, b, rfl, before⟩ := List.eq_append_cons_of_mem quote
        rw [between_append before] at absent
        cases absent
      · exact .pure _ (.inr (.inl ⟨quote, comma, ⟨rfl, rfl, rfl⟩, first, rfl⟩))
    · have comma : ',' ∈ v := List.count_pos_iff.mp (Nat.pos_of_ne_zero some)
      refine .ite (fun yes => ?_) fun no => ?_
      · have starts : { prop with
              itemsSize := Option.some (v.count ',' + 1), type := .strArray
              : DsiParserProp }.itemsSize =
            Option.some (prop.items.length + (v.count ',' + 1)) := by
          rw [first, List.length_nil, Nat.zero_add]
        refine .get ((stringsLoop_stays (count_lt_of_stringAt at_p ',') at_p _ false
          (.inr comma) starts).imp ?_)
        rintro out last - ⟨items, rfl, count⟩
        refine .inr (.inr ⟨quote, comma, yes, rfl, rfl, rfl, ?_, rfl⟩)
        rw [first, List.nil_append, count]
      · exact .pure _ (.inl ⟨fun has => no has.2.2, fun has => has.2 comma, rfl, rfl⟩)

def Laid (allocs : Allocs) (prop : DsiParserProp) : Prop :=
  (prop.raw = none ∧ prop.items = []) ∨
    ∃ name v, prop.name = some name ∧ prop.raw = some v ∧ ∀ w, Fits w prop ↔ RoomFor w allocs name v

def Unfound (allocs : Allocs) (prop : DsiParserProp) : Prop :=
  prop.items = [] ∧ ∀ v, prop.raw = some v → ∀ w name, RoomFor w allocs name v

theorem fits_nil (w : ℕ) (none : prop.items = []) : Fits w prop := by
  rw [Fits, none, List.length_nil, Nat.mul_zero]
  exact Nat.zero_le _

theorem parseProp_stays (ended : Ended e mem) (low : p ≤ e) (allocs : Allocs) :
    Stays e (parseProp allocs p) mem fun out _ =>
      Laid allocs out.1 ∧ (out.2 = false → Unfound allocs out.1) := by
  have at_p := ended.stringAt low
  have missing : Laid allocs .zero ∧ Unfound allocs .zero :=
    ⟨.inl ⟨rfl, rfl⟩, rfl, fun _ none => nomatch none⟩
  rw [parseProp]
  refine .before (ended.cstr_le low) (Stays.strsep_at at_p) ?_
  rintro cut mem' kept (⟨-, rfl, rfl⟩ | ⟨a, v, whole, -, rfl, token, value⟩)
  · exact .pure _ ⟨missing.1, fun _ => missing.2⟩
  · have inside : p + a.length + 1 + v.length ≤ e := by
      rw [length_split, ← whole]
      exact ended.cstr_le low
    dsimp only
    refine .ite (fun _ => ?_) fun _ => .pure _ ⟨missing.1, fun _ => missing.2⟩
    refine .before inside (Stays.string (ended_stringAt value) (Nat.le_add_right _ _)) ?_
    rintro raw mem'' - ⟨rfl, rfl⟩
    rw [cstr_stringAt value]
    refine .before (by omega) (trim_stays token) ?_
    rintro name mem₃ kept' -
    have value' := kept'.stringAt value (by omega)
    refine .before inside (getStrings_stays value' (allocs.strings name) rfl) ?_
    rintro strings last kept''
      (⟨not, plain, rfl, rfl⟩ | ⟨quote, comma, ⟨named, text, -⟩, none, found⟩ |
      ⟨quote, comma, allocated, named, text, size, count, found⟩)
    · rw [if_neg Bool.false_ne_true]
      refine .ite (fun allocated => ?_) fun failed => ?_
      · refine .before inside (strlen_stays value') ?_
        rintro n final - ⟨rfl, rfl⟩
        refine ((parseItems_stays value' (allocs.value name) rfl).mono inside).imp ?_
        rintro out _ - ⟨⟨named, text, size⟩, count, unfound⟩
        have room : ∀ w, RoomFor w allocs name v ↔ w * itemPointers v ≤ 2 * v.length := by
          intro w
          rw [RoomFor, if_neg not, if_neg plain]
          exact ⟨fun fits => fits allocated, fun fits _ => fits⟩
        refine ⟨.inr ⟨name, v, named, text, fun w => ?_⟩, fun other => ?_⟩
        · rw [room, Fits, count, size]
          rfl
        · obtain ⟨comma, none⟩ := unfound other
          refine ⟨List.length_eq_zero_iff.mp (count.trans none), fun v' same w name' => ?_⟩
          cases text.symm.trans same
          rw [RoomFor, if_neg fun has => comma has.2.1, if_neg plain, none, Nat.mul_zero]
          exact fun _ => Nat.zero_le _
      · refine .pure _ ⟨.inr ⟨name, v, rfl, rfl, fun w => ?_⟩, fun other => Bool.noConfusion other⟩
        rw [RoomFor, if_neg not, if_neg plain]
        exact iff_of_true (fits_nil w rfl) fun allocated => absurd allocated failed
    · rw [if_pos found]
      refine .pure _ ⟨.inr ⟨name, v, named, text, fun w => ?_⟩, fun other => Bool.noConfusion other⟩
      rw [RoomFor, if_neg fun has => comma has.2.1, if_pos ⟨quote, comma⟩]
      exact iff_of_true (fits_nil w none) trivial
    · rw [if_pos found]
      refine .pure _ ⟨.inr ⟨name, v, named, text, fun w => ?_⟩, fun other => Bool.noConfusion other⟩
      rw [RoomFor, if_pos ⟨quote, comma, allocated⟩, Fits, count, size]
      rfl

theorem trim_inside (ended : Ended e mem) (low : p ≤ e) :
    Stays e (trim p) mem fun q _ => q ≤ e := by
  refine ((trim_stays (ended.stringAt low)).mono (ended.cstr_le low)).imp ?_
  rintro q mem' - ⟨inside, -⟩
  exact Nat.le_trans inside (ended.cstr_le low)

variable {allocs : Allocs}

theorem nameOnly_stays (ended : Ended e mem) (low : p ≤ e) (laid : Laid allocs prop)
    (unfound : Unfound allocs prop) :
    Stays e (nameOnly prop p) mem fun out _ => Laid allocs out := by
  rw [nameOnly]
  refine (Stays.strsep ended low).bind ?_
  rintro cut mem' kept ⟨-, -, at_p, -⟩
  have ended' := kept.ended ended
  refine (trim_inside ended' (Nat.le_trans (Nat.le_of_eq at_p) low)).bind ?_
  intro out1 mem'' kept' inside
  refine (Stays.strlen (kept'.ended ended') inside).bind ?_
  intro size mem₃ _ _
  refine .ite (fun _ => .pure _ ?_) fun _ => .pure _ laid
  cases text : prop.raw with
  | none => exact .inl ⟨rfl, unfound.1⟩
  | some v =>
    refine .inr ⟨out1, v, rfl, rfl, fun w => ?_⟩
    exact iff_of_true (fits_nil w unfound.1) (unfound.2 v text w out1)

theorem laid_zero (allocs : Allocs) : Laid allocs .zero := .inl ⟨rfl, rfl⟩

theorem propertiesLoop_stays (allocs : Allocs) (n : ℕ) (ended : Ended e mem) (low : p ≤ e) :
    Stays e (propertiesLoop allocs n p) mem fun props _ => ∀ prop ∈ props, Laid allocs prop := by
  induction n generalizing mem p with
  | zero => exact .pure _ fun _ member => nomatch member
  | succ n ih =>
    rw [propertiesLoop]
    refine (Stays.strsep ended low).bind ?_
    rintro ⟨out, rest⟩ mem' kept ⟨-, -, rfl, inside⟩
    have ended' := kept.ended ended
    refine (parseProp_stays ended' low allocs).bind ?_
    rintro parsed mem'' kept' ⟨laid, unfound⟩
    have ended'' := kept'.ended ended'
    have named : Stays e (if parsed.2 then pure parsed.1 else nameOnly parsed.1 out) mem''
        fun prop _ => Laid allocs prop :=
      .ite (fun _ => .pure _ laid) fun not =>
        nameOnly_stays ended'' low laid (unfound (Bool.eq_false_of_not_eq_true not))
    refine named.bind ?_
    intro prop mem₃ kept'' here
    cases rest with
    | none =>
      refine .pure _ fun prop' member => ?_
      cases member with
      | head => exact here
      | tail _ later =>
        rw [List.eq_of_mem_replicate later]
        exact laid_zero allocs
    | some q =>
      refine (ih (kept''.ended ended'') (inside q rfl).2).bind ?_
      intro props last _ all
      refine .pure _ fun prop' member => ?_
      cases member with
      | head => exact here
      | tail _ later => exact all prop' later

/-! ## The tree -/

mutual

def Node.Inside (e : ℕ) : Node → Prop
  | .mk _ data _ children => data ≤ e ∧ Node.AllInside e children

def Node.AllInside (e : ℕ) : List Node → Prop
  | [] => True
  | node :: rest => node.Inside e ∧ Node.AllInside e rest

end

theorem allInside_push {node : Node} {nodes : List Node} (all : Node.AllInside e nodes)
    (one : node.Inside e) :
    Node.AllInside e (nodes ++ [node]) := by
  induction nodes with
  | nil => exact ⟨one, trivial⟩
  | cons first nodes ih => exact ⟨all.1, ih all.2⟩

theorem lastTokenLoop_stays (n : ℕ) (ended : Ended e mem) (low : p ≤ e) :
    Stays e (lastTokenLoop n p) mem fun q _ => q ≤ e := by
  induction n generalizing mem p with
  | zero => exact .pure _ low
  | succ n ih =>
    rw [lastTokenLoop]
    refine (Stays.strsep ended low).bind ?_
    rintro ⟨token, rest⟩ mem' kept ⟨-, -, rfl, inside⟩
    cases rest with
    | none => exact .pure _ low
    | some q => exact ih (kept.ended ended) (inside q rfl).2

theorem cleanNameText_stays (ended : Ended e mem) (low : p ≤ e) :
    Stays e (cleanNameText p) mem fun q _ => q ≤ e := by
  refine (Stays.strlen ended low).bind ?_
  rintro size mem' kept -
  refine (lastTokenLoop_stays _ (kept.ended ended) low).bind ?_
  intro token mem'' kept' inside
  exact trim_inside (kept'.ended (kept.ended ended)) inside

theorem lastSemicolon_inside {buf semicolon : ℕ}
    (found : lastSemicolon mem buf n = some semicolon) :
    buf ≤ semicolon ∧ semicolon < buf + n := by
  induction n with
  | zero => cases found
  | succ n ih =>
    rw [lastSemicolon] at found
    split at found
    · cases found
      omega
    · have inside := ih found
      omega

theorem getBlobText_stays (ended : Ended e mem) (low : p ≤ e) :
    Stays e (getBlobText p) mem fun out _ => p ≤ out.1 ∧ out.1 ≤ e := by
  rw [getBlobText]
  refine (Stays.strpbrk ended low).bind ?_
  rintro found mem' - ⟨rfl, -, brace⟩
  cases found with
  | none => exact .pure _ ⟨Nat.le_refl p, low⟩
  | some data =>
    obtain ⟨behind, inside, -⟩ := brace data rfl
    refine (Stays.load ended (Nat.le_of_lt inside)).bind ?_
    rintro c mem' - ⟨rfl, -⟩
    refine .ite (fun _ => .get ?_) fun _ => ?_
    · cases semicolon : lastSemicolon mem' p (data - p) with
      | none => exact .pure _ ⟨Nat.le_refl p, low⟩
      | some q =>
        have between := lastSemicolon_inside semicolon
        refine (Stays.store ended (by omega)).bind ?_
        intro _ _ _ _
        exact .pure _ ⟨by omega, by omega⟩
    · refine (Stays.store ended (Nat.le_of_lt inside)).bind ?_
      intro _ _ _ _
      exact .pure _ ⟨by omega, inside⟩

/-- Each node that is found ends behind a brace, so that twice the length of the text is fuel
    enough. -/
theorem findNodes_stays (alloc : ℕ → Bool) (fuel : ℕ) :
    (∀ mem buf, Ended e mem → buf ≤ e → 2 * (e - buf) + 1 ≤ fuel →
      Stays e (findNodesText alloc fuel buf) mem fun found _ => buf ≤ found.1 ∧ found.1 ≤ e ∧
        ∀ node, found.2 = some node → buf < found.1 ∧ node.Inside e) ∧
    ∀ mem buf children, Ended e mem → buf ≤ e → 2 * (e - buf) + 2 ≤ fuel →
    Node.AllInside e children →
      Stays e (findChildrenText alloc fuel buf children) mem fun found _ =>
        buf ≤ found.1 ∧ found.1 ≤ e ∧
        Node.AllInside e found.2 := by
  induction fuel with
  | zero =>
    refine ⟨fun _ _ _ _ enough => ?_, fun _ _ _ _ _ enough => ?_⟩
    · omega
    · omega
  | succ fuel ih =>
    refine ⟨fun mem buf ended low enough => ?_, fun mem buf children ended low enough all => ?_⟩
    · rw [findNodesText]
      refine (Stays.strpbrk ended low).bind ?_
      rintro found mem' - ⟨rfl, -, brace⟩
      cases found with
      | none => exact .pure _ ⟨Nat.le_refl buf, low, fun _ other => nomatch other⟩
      | some data =>
        obtain ⟨behind, inside, -⟩ := brace data rfl
        refine (Stays.load ended (Nat.le_of_lt inside)).bind ?_
        rintro c mem' - ⟨rfl, -⟩
        refine .ite (fun _ => .pure _ ⟨by omega, inside, fun _ other => nomatch other⟩) fun _ => ?_
        refine (Stays.strsep ended low).bind ?_
        rintro ⟨token, rest⟩ mem'' kept ⟨-, -, rfl, further⟩
        have ended' := kept.ended ended
        cases rest with
        | none => exact .pure _ ⟨Nat.le_refl _, low, fun _ other => nomatch other⟩
        | some body =>
          obtain ⟨after, within⟩ := further body rfl
          refine .ite (fun _ => ?_) fun _ => .pure _ ⟨Nat.le_of_lt after, within, fun _ other =>
            nomatch other⟩
          refine (cleanNameText_stays ended' low).bind ?_
          intro name mem₃ kept' _
          have ended'' := kept'.ended ended'
          refine (getBlobText_stays ended'' within).bind ?_
          rintro blob last kept'' ⟨first, second⟩
          refine .ite (fun _ => ?_) fun _ => ?_
          · refine (ih.2 last blob.1 [] (kept''.ended ended'') second (by omega) trivial).bind ?_
            rintro inner final - ⟨third, fourth, nodes⟩
            refine .pure _ ⟨by omega, fourth, fun node same => ?_⟩
            cases same
            exact ⟨by omega, within, nodes⟩
          · refine .pure _ ⟨by omega, second, fun node same => ?_⟩
            cases same
            exact ⟨by omega, within, trivial⟩
    · rw [findChildrenText]
      refine (ih.1 mem buf ended low (by omega)).bind ?_
      rintro ⟨next, found⟩ mem' kept ⟨behind, inside, node⟩
      cases found with
      | none => exact .pure _ ⟨behind, inside, all⟩
      | some child =>
        obtain ⟨further, one⟩ := node child rfl
        have more : Node.AllInside e
            (if children.length < DSI_PARSER_MAX_NODES then children ++ [child] else children) := by
          split
          · exact allInside_push all one
          · exact all
        refine (ih.2 mem' next _ (kept.ended ended) inside
          (by dsimp only at further; omega) more).imp ?_
        rintro out _ - ⟨first, second, nodes⟩
        exact ⟨Nat.le_trans behind first, second, nodes⟩

theorem lastTokenLoop_yields (n : ℕ) (mem : Mem) (name : ℕ) :
    Yields (lastTokenLoop n name) mem (some (lastToken n mem name)) := by
  induction n generalizing mem name with
  | zero => exact .pure name
  | succ n ih =>
    rw [lastTokenLoop, lastToken]
    refine (Yields.strsep [';']).bind ?_
    rintro ⟨token, rest⟩ mem' cut
    rw [Option.some.inj cut]
    cases rest with
    | none => exact .pure token
    | some next => exact ih mem' next

theorem cleanNameText_yields (mem : Mem) (name : ℕ) :
    Yields (cleanNameText name) mem (some (cleanName mem name)) := by
  refine (Yields.scanning _ _).bind ?_
  rintro size mem' ⟨⟩
  refine (lastTokenLoop_yields _ mem name).bind ?_
  rintro token mem' taken
  rw [cleanName, Option.some.inj taken]
  refine (Yields.scanning _ _).bind ?_
  rintro _ mem'' ⟨⟩
  exact .scanning _ _

theorem getBlobText_yields (mem : Mem) (buf : ℕ) :
    Yields (getBlobText buf) mem (some (getBlob mem buf)) := by
  rw [getBlob]
  refine (Yields.scanning _ _).bind ?_
  rintro found mem' ⟨⟩
  cases Lib.CString.strpbrk mem buf ['{', '}'] with
  | none => exact .pure _
  | some data =>
    refine Yields.load.bind ?_
    rintro c mem' ⟨⟩
    dsimp only
    split
    · refine Yields.get ?_
      cases lastSemicolon mem buf (data - buf) with
      | none => exact .pure _
      | some semicolon =>
        refine (Yields.store NUL).bind ?_
        rintro _ mem' ⟨⟩
        exact .pure _
    · refine (Yields.store NUL).bind ?_
      rintro _ mem' ⟨⟩
      exact .pure _

/-- What the form that stops behind the end returns, the plain form returns. -/
theorem findNodesText_yields (alloc : ℕ → Bool) (fuel : ℕ) :
    (∀ mem buf, Yields (findNodesText alloc fuel buf) mem (findNodes alloc fuel mem buf)) ∧
    ∀ mem buf children, Yields (findChildrenText alloc fuel buf children) mem
      (findChildren alloc fuel mem buf children) := by
  induction fuel with
  | zero => exact ⟨fun _ _ _ _ run => (nomatch run), fun _ _ _ _ _ run => (nomatch run)⟩
  | succ fuel ih =>
    refine ⟨fun mem buf => ?_, fun mem buf children => ?_⟩
    · rw [findNodesText, findNodes]
      refine (Yields.scanning _ _).bind ?_
      rintro found mem' ⟨⟩
      cases Lib.CString.strpbrk mem buf ['{', '}'] with
      | none => exact .pure _
      | some data =>
        refine Yields.load.bind ?_
        rintro c mem' ⟨⟩
        dsimp only
        split
        · exact .pure _
        · refine (Yields.strsep ['{']).bind ?_
          rintro ⟨token, rest⟩ mem' cut
          rw [Option.some.inj cut]
          cases rest with
          | none => exact .pure _
          | some body =>
            dsimp only
            split
            · refine (cleanNameText_yields mem' token).bind ?_
              rintro name mem'' cleaned
              rw [Option.some.inj cleaned]
              refine (getBlobText_yields mem'' body).bind ?_
              rintro ⟨next, hasChild⟩ last blob
              rw [Option.some.inj blob]
              cases hasChild with
              | false => exact .pure _
              | true =>
                refine (ih.2 last next []).bind ?_
                rintro inner final found
                simp only [if_true, found, Option.map_some]
                exact .pure _
            · exact .pure _
    · rw [findChildrenText, findChildren]
      refine (ih.1 mem buf).bind ?_
      rintro ⟨next, node⟩ mem' found
      rw [found]
      cases node with
      | none => exact .pure _
      | some child => exact ih.2 mem' next _

/-- On a text with an end both forms of the function do the same. -/
theorem findNodesText_ok {alloc : ℕ → Bool} {fuel : ℕ} {buf : ℕ} (ended : Ended e mem)
    (low : buf ≤ e)
    (enough : 2 * (e - buf) + 1 ≤ fuel) :
    ∃ found mem', findNodesText alloc fuel buf mem = .ok (found, mem') ∧
      findNodes alloc fuel mem buf = some (mem', found) := by
  obtain ⟨found, mem', run, -⟩ := (findNodes_stays alloc fuel).1 mem buf ended low enough
  exact ⟨found, mem', run, (findNodesText_yields alloc fuel).1 mem buf found mem' run⟩

mutual

theorem countProperties_stays : ∀ (node : Node) (mem : Mem), Ended e mem → node.Inside e →
    Stays e (countPropertiesText node) mem fun out _ => out.Inside e
  | .mk name data propCount children, mem, ended, inside => by
    obtain ⟨low, below⟩ := inside
    rw [countPropertiesText]
    refine (Stays.strlen ended low).bind ?_
    rintro size mem' - ⟨rfl, -, -⟩
    refine .ite (fun _ => .pure _ ⟨low, below⟩) fun _ => ?_
    refine .before (ended.cstr_le low) (count_stays (ended.stringAt low) ';') ?_
    rintro count mem' - ⟨-, rfl⟩
    refine (countAll_stays children _ ended below).bind ?_
    intro children mem'' _ below
    exact .pure _ ⟨low, below⟩

theorem countAll_stays : ∀ (nodes : List Node) (mem : Mem), Ended e mem → Node.AllInside e nodes →
    Stays e (countAllText nodes) mem fun out _ => Node.AllInside e out
  | [], _, _, _ => .pure _ trivial
  | node :: rest, mem, ended, inside => by
    rw [countAllText]
    refine (countProperties_stays node mem ended inside.1).bind ?_
    intro node mem' kept one
    refine (countAll_stays rest mem' (kept.ended ended) inside.2).bind ?_
    intro rest mem'' _ more
    exact .pure _ ⟨one, more⟩

end

mutual

theorem properties_bare : ∀ node : Node, node.bare.properties = []
  | .mk _ _ _ children => allProperties_bare children

theorem allProperties_bare : ∀ nodes : List Node, PropNode.allProperties (Node.bareAll nodes) = []
  | [] => rfl
  | node :: rest => by
    rw [Node.bareAll, PropNode.allProperties, properties_bare node, allProperties_bare rest,
      List.append_nil]

end

mutual

theorem getProperties_stays (allocs : Allocs) : ∀ (node : Node) (mem : Mem), Ended e mem →
    node.Inside e →
    Stays e (getProperties allocs node) mem fun out _ => ∀ prop ∈ out.properties, Laid allocs prop
  | .mk name data propCount children, mem, ended, inside => by
    obtain ⟨low, below⟩ := inside
    rw [getProperties]
    refine .ite (fun _ => ?_) fun _ => .ite (fun _ => ?_) fun _ => .pure _ fun prop member => ?_
    · refine (getAllProperties_stays allocs children mem ended below).bind ?_
      intro inner mem' _ all
      exact .pure _ all
    · refine (propertiesLoop_stays allocs propCount ended low).bind ?_
      intro props mem' kept own
      refine (getAllProperties_stays allocs children mem' (kept.ended ended) below).bind ?_
      intro inner mem'' _ all
      exact .pure _ fun prop member => (List.mem_append.mp member).elim (own prop) (all prop)
    · rw [properties_bare] at member
      cases member

theorem getAllProperties_stays (allocs : Allocs) : ∀ (nodes : List Node) (mem : Mem), Ended e mem →
    Node.AllInside e nodes →
    Stays e (getAllProperties allocs nodes) mem fun out _ => ∀ prop ∈ PropNode.allProperties out,
    Laid allocs prop
  | [], _, _, _ => .pure _ fun _ member => nomatch member
  | node :: rest, mem, ended, inside => by
    rw [getAllProperties]
    refine (getProperties_stays allocs node mem ended inside.1).bind ?_
    intro node mem' kept own
    refine (getAllProperties_stays allocs rest mem' (kept.ended ended) inside.2).bind ?_
    intro rest mem'' _ all
    exact .pure _ fun prop member => (List.mem_append.mp member).elim (own prop) (all prop)

end

/-! ## The whole text -/

variable {text : Mem}

theorem getHeadNode_stays (allocs : Allocs) (ended : Ended e text) :
    Stays e (getHeadNode allocs) text fun found _ =>
      ∀ node, found = some node → ∀ prop ∈ node.properties, Laid allocs prop := by
  rw [getHeadNode]
  refine .get (.ite (fun _ => .pure _ fun _ other => nomatch other) fun _ => ?_)
  refine (Stays.strreplace ended (Nat.zero_le e)).bind ?_
  intro _ mem kept _
  have ended' := kept.ended ended
  refine (Stays.strreplace ended' (Nat.zero_le e)).bind ?_
  intro _ mem' kept' _
  have ended'' := kept'.ended ended'
  have fuel : 2 * (e - 0) + 1 ≤ 2 * text.length + 1 := by
    have inside := ended.lt
    omega
  refine ((findNodes_stays allocs.node _).1 mem' 0 ended'' (Nat.zero_le e) fuel).bind ?_
  rintro ⟨_, found⟩ mem'' kept'' ⟨-, -, inside⟩
  cases found with
  | none => exact .pure _ fun _ other => nomatch other
  | some head =>
    have ended₃ := kept''.ended ended''
    refine (countProperties_stays head mem'' ended₃ (inside head rfl).2).bind ?_
    intro head last kept₃ within
    refine (getProperties_stays allocs head last (kept₃.ended ended₃) within).bind ?_
    intro node _ _ laid
    refine .pure _ fun node' same => ?_
    cases same
    exact laid

theorem getHeadNode_early (early : text = [] ∨ allocs.buf = false) :
    getHeadNode allocs text = .ok (none, text) := by
  have none : text.length = 0 ∨ allocs.buf = false := early.imp_left List.length_eq_zero_iff.mpr
  show (if text.length = 0 ∨ allocs.buf = false then (return Option.none : Text _) else _) text = _
  rw [if_pos none]
  rfl

theorem getHeadNode_endless (some : ¬(text = [] ∨ allocs.buf = false))
    (endless : NUL ∉ text) : getHeadNode allocs text = .error .outside := by
  have goes : ¬(text.length = 0 ∨ allocs.buf = false) :=
    mt (Or.imp_left List.length_eq_zero_iff.mp) some
  have none : ¬Ends text 0 [] := by
    rintro ⟨c, member, rfl | other⟩
    · exact endless member
    · cases other
  have stops : strreplace 0 '\n' ' ' text = .error .outside := if_neg none
  show (if text.length = 0 ∨ allocs.buf = false then (return Option.none : Text _) else _) text = _
  rw [if_neg goes]
  show (strreplace 0 '\n' ' ' text).bind _ = _
  rw [stops]
  rfl

/-- The text is parsed to the end without a look behind it, and the pointers of every property fit
    what was allocated for them; `w` is the size of a pointer. -/
def ParsesInside (w : ℕ) (allocs : Allocs) (text : Mem) : Prop :=
  ∃ found mem, getHeadNode allocs text = .ok (found, mem) ∧
    ∀ node, found = some node → ∀ prop ∈ node.properties, Fits w prop

/-- A text is parsed inside its allocations exactly where nothing is parsed, or it ends and each of its
    properties has room for its pointers. -/
theorem parsesInside_iff (w : ℕ) (allocs : Allocs) (text : Mem) :
    ParsesInside w allocs text ↔ text = [] ∨ allocs.buf = false ∨
      NUL ∈ text ∧ ∀ node mem, getHeadNode allocs text = .ok (some node, mem) →
        ∀ prop ∈ node.properties, ∀ name v, prop.name = some name → prop.raw = some v →
          RoomFor w allocs name v := by
  by_cases early : text = [] ∨ allocs.buf = false
  · rw [← or_assoc]
    exact iff_of_true ⟨none, text, getHeadNode_early early, fun _ other =>
      nomatch other⟩ (.inl early)
  · rw [← or_assoc, or_iff_right early]
    by_cases ends : NUL ∈ text
    · obtain ⟨e, inside, at_e⟩ := List.getElem_of_mem ends
      have ended : Ended e text := List.getElem?_eq_some_iff.mpr ⟨inside, at_e⟩
      obtain ⟨found, mem, run, -, laid⟩ := getHeadNode_stays allocs ended
      rw [and_iff_right ends]
      constructor
      · rintro ⟨found', mem', run', fits⟩ node mem'' ran prop member name v named text
        cases run'.symm.trans ran
        obtain ⟨none, -⟩ | ⟨name', v', named', text', room⟩ :=
          laid node (by cases run.symm.trans ran; rfl) prop member
        · cases none.symm.trans text
        · cases named.symm.trans named'
          cases text.symm.trans text'
          exact (room w).mp (fits node rfl prop member)
      · intro room
        refine ⟨found, mem, run, fun node same prop member => ?_⟩
        subst same
        obtain ⟨-, none⟩ | ⟨name, v, named, text, fits⟩ := laid node rfl prop member
        · exact fits_nil w none
        · exact (fits w).mpr (room node mem run prop member name v named text)
    · refine iff_of_false ?_ fun has => ends has.1
      rintro ⟨found, mem, run, -⟩
      rw [getHeadNode_endless early ends] at run
      cases run

def pair : Mem := ['n', '{', 'p', '=', '<', '1', ' ', '2', '>', ';', '}', NUL]

def pairProp : DsiParserProp :=
  { name := some 2, raw := some ['<', '1', ' ', '2', '>'], value := .ints [1, 2],
    items := [some 5, some 7], itemsSize := some 10, type := .intSet }

/-- Two items of one digit get ten bytes, where two pointers of 8 bytes are stored. -/
theorem not_parsesInside_pair : ¬∀ (allocs : Allocs) (text : Mem), ParsesInside 8 allocs text := by
  intro every
  obtain ⟨found, mem, run, fits⟩ := every allAllocated pair
  have parsed : getHeadNode allAllocated pair = .ok (some (.mk 0 2 [pairProp] []),
      ['n', NUL, 'p', NUL, NUL, '1', NUL, '2', NUL, NUL, NUL, NUL]) := rfl
  cases parsed.symm.trans run
  exact absurd (fits _ rfl pairProp (List.mem_singleton_self _)) (by unfold Fits; decide)

end DisplayDrivers.DsiParser
