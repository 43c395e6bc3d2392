import DisplayDrivers.DsiParser.Properties

/-! # Reading an array of integers (`msm/dsi/dsi_parser.c`)

`dsi_parser_read_u32_array` stores the items of a property as integers. Its caller asks for `sz` of
them, but the loop runs over the items that the property has: one that cannot be read is left out,
and the return code is that of the last.
-/

namespace DisplayDrivers.DsiParser

open DisplayDrivers.Lib.CString (Mem NUL cstr)
open DisplayDrivers.Lib.CheckedText

def searchProperty (mem : Mem) (props : List DsiParserProp) (name : List Char) :
    Option DsiParserProp :=
  props.find? fun prop => prop.name.any fun p => cstr mem p = name

def readItem (item : List Char) : Except Int (BitVec 32) := (convert item).map (BitVec.ofInt 32)

/-- The loop of `dsi_parser_read_u32_array` from the item `i` on: what it returns, and the values
    that it stores, each with the item that it is logged with. -/
def readLoop : List (Option ℕ) → (i : ℕ) → Int → List (ℕ × BitVec 32) →
    Text (Int × List (ℕ × BitVec 32))
  | [], _, rc, out => return (rc, out)
  | none :: _, _, _, _ => throw .outside
  | some p :: items, i, _, out => do
    let item ← string p
    match readItem (copied item) with
    | .ok val => readLoop items (i + 1) 0 (out ++ [(i, val)])
    | .error err => readLoop items (i + 1) err out

/-- `dsi_parser_read_u32_array`; what the caller asks for is not looked at. -/
def readU32Array (props : List DsiParserProp) (name : List Char) (_sz : ℕ) :
    Text (Int × List (ℕ × BitVec 32)) := do
  let mem ← get
  match searchProperty mem props name with
  | none => return (-EINVAL, [])
  | some prop => readLoop prop.items 0 0 []

def Readable (mem : Mem) (item : Option ℕ) : Prop := ∃ p, item = some p ∧ Ends mem p []

def itemText (mem : Mem) (item : Option ℕ) : List Char := item.elim [] (cstr mem)

/-- What the caller is promised: no more than `sz` values, and on success the first `sz` items. -/
def Honours (mem : Mem) (props : List DsiParserProp) (name : List Char) (sz : ℕ) : Prop :=
  ∃ rc out, readU32Array props name sz mem = .ok ((rc, out), mem) ∧ out.length ≤ sz ∧
    (rc = 0 → out.length = sz ∧ ∃ prop, searchProperty mem props name = some prop ∧
      ∀ k < sz, ∃ text val, (prop.items.map (itemText mem))[k]? = some text ∧
        readItem text = .ok val ∧ out[k]? = some (k, val))

/-! ## What the loop stores -/

def itemCode (text : List Char) : Int :=
  match readItem (copied text) with
  | .ok _ => 0
  | .error rc => rc

def lastCode : Int → List (List Char) → Int
  | rc, [] => rc
  | _, text :: texts => lastCode (itemCode text) texts

def stored : ℕ → List (List Char) → List (ℕ × BitVec 32)
  | _, [] => []
  | i, text :: texts =>
    match readItem (copied text) with
    | .ok val => (i, val) :: stored (i + 1) texts
    | .error _ => stored (i + 1) texts

variable {mem : Mem} {props : List DsiParserProp} {name : List Char} {items : List (Option ℕ)}
  {texts : List (List Char)} {sz i : ℕ} {rc : Int} {out : List (ℕ × BitVec 32)}

theorem string_of_ends {p : ℕ} (ends : Ends mem p []) : string p mem = .ok (cstr mem p, mem) :=
  if_pos ends

theorem string_of_not_ends {p : ℕ} (ends : ¬Ends mem p []) : string p mem = .error .outside :=
  if_neg ends

theorem readLoop_some (p : ℕ) (items : List (Option ℕ)) (i : ℕ) (rc : Int)
    (out : List (ℕ × BitVec 32)) :
    readLoop (some p :: items) i rc out mem = (string p mem).bind fun item =>
      match readItem (copied item.1) with
      | .ok val => readLoop items (i + 1) 0 (out ++ [(i, val)]) item.2
      | .error err => readLoop items (i + 1) err out item.2 := by
  rw [readLoop]
  show (string p mem).bind _ = _
  congr 1
  funext ⟨item, mem'⟩
  dsimp only
  cases readItem (copied item) <;> rfl

theorem readLoop_readable (readable : ∀ item ∈ items, Readable mem item) :
    readLoop items i rc out mem = .ok ((lastCode rc (items.map (itemText mem)),
      out ++ stored i (items.map (itemText mem))), mem) := by
  induction items generalizing i rc out with
  | nil =>
    rw [List.map_nil, lastCode, stored, List.append_nil]
    rfl
  | cons item items ih =>
    obtain ⟨p, rfl, ends⟩ := readable item List.mem_cons_self
    have rest : ∀ item ∈ items, Readable mem item :=
      fun item member => readable item (List.mem_cons_of_mem _ member)
    rw [readLoop_some, string_of_ends ends, List.map_cons, lastCode, stored, itemCode]
    change (match readItem (copied (cstr mem p)) with
      | .ok val => readLoop items (i + 1) 0 (out ++ [(i, val)]) mem
      | .error err => readLoop items (i + 1) err out mem) = _
    rw [show itemText mem (some p) = cstr mem p from rfl]
    cases readItem (copied (cstr mem p)) with
    | ok val =>
      dsimp only
      rw [ih rest, List.append_assoc, List.singleton_append]
    | error rc =>
      dsimp only
      rw [ih rest]

theorem readLoop_unreadable {item : Option ℕ} (member : item ∈ items) (not : ¬Readable mem item) :
    readLoop items i rc out mem = .error .outside := by
  induction items generalizing i rc out with
  | nil => cases member
  | cons first items ih =>
    cases first with
    | none => rfl
    | some p =>
      rw [readLoop_some]
      by_cases ends : Ends mem p []
      · have later : item ∈ items := by
          cases member with
          | head => exact absurd ⟨p, rfl, ends⟩ not
          | tail _ later => exact later
        rw [string_of_ends ends]
        show (match readItem (copied (cstr mem p)) with
          | .ok val => readLoop items (i + 1) 0 (out ++ [(i, val)]) mem
          | .error err => readLoop items (i + 1) err out mem) = _
        cases readItem (copied (cstr mem p)) with
        | ok _ => exact ih later
        | error _ => exact ih later
      · rw [string_of_not_ends ends]
        rfl

theorem mem_stored {j : ℕ} {val : BitVec 32} : (j, val) ∈ stored i texts ↔
    ∃ k text, j = i + k ∧ texts[k]? = some text ∧ readItem (copied text) = .ok val := by
  induction texts generalizing i with
  | nil => simp [stored]
  | cons first texts ih =>
    have later : (∃ k text, j = i + 1 + k ∧ texts[k]? = some text ∧
      readItem (copied text) = .ok val) ↔
        ∃ k text, j = i + (k + 1) ∧ (first :: texts)[k + 1]? = some text ∧
          readItem (copied text) = .ok val := by
      simp only [List.getElem?_cons_succ, Nat.add_assoc, Nat.add_comm 1]
    rw [stored]
    cases read : readItem (copied first) with
    | ok value =>
      simp only [List.mem_cons, Prod.mk.injEq, ih, later]
      constructor
      · rintro (⟨rfl, rfl⟩ | ⟨k, text, at_k⟩)
        · exact ⟨0, first, rfl, rfl, read⟩
        · exact ⟨k + 1, text, at_k⟩
      · rintro ⟨k, text, place, at_k, value⟩
        cases k with
        | zero =>
          cases at_k
          rw [read] at value
          cases value
          exact .inl ⟨place, rfl⟩
        | succ k => exact .inr ⟨k, text, place, at_k, value⟩
    | error code =>
      simp only [ih, later]
      constructor
      · rintro ⟨k, text, at_k⟩
        exact ⟨k + 1, text, at_k⟩
      · rintro ⟨k, text, place, at_k, value⟩
        cases k with
        | zero =>
          cases at_k
          rw [read] at value
          cases value
        | succ k => exact ⟨k, text, place, at_k, value⟩

def readsCopied (text : List Char) : Bool := (readItem (copied text)).isOk

theorem length_stored (i : ℕ) (texts : List (List Char)) :
    (stored i texts).length = texts.countP readsCopied := by
  induction texts generalizing i with
  | nil => rfl
  | cons first texts ih =>
    rw [stored, List.countP_cons, readsCopied]
    cases readItem (copied first) with
    | ok _ => exact congrArg (· + 1) (ih _)
    | error _ => exact ih _

theorem stored_all (all : ∀ text ∈ texts, readsCopied text = true) {k : ℕ}
    (inside : k < texts.length) :
    ∃ val, readItem (copied texts[k]) = .ok val ∧ (stored i texts)[k]? = some (i + k, val) := by
  induction texts generalizing i k with
  | nil => exact absurd inside (Nat.not_lt_zero k)
  | cons first texts ih =>
    have here := all first List.mem_cons_self
    unfold readsCopied at here
    rw [stored]
    cases read : readItem (copied first) with
    | error code =>
      rw [read] at here
      cases here
    | ok val =>
      cases k with
      | zero => exact ⟨val, read, rfl⟩
      | succ k =>
        have inside : k < texts.length := Nat.lt_of_succ_lt_succ inside
        obtain ⟨val, read, at_k⟩ :=
          ih (i := i + 1) (fun text member => all text (.tail _ member)) inside
        refine ⟨val, read, ?_⟩
        rw [List.getElem?_cons_succ, at_k, Nat.add_assoc, Nat.add_comm 1]

theorem kstrtoull_error {s : List Char} {base : ℕ} (failed : kstrtoull s base = .error rc) :
    rc ≠ 0 := by
  unfold kstrtoull at failed
  extract_lets s' digits value at failed
  split at failed
  · cases failed
    decide
  · split at failed
    · cases failed
      decide
    · split at failed
      · cases failed
      · cases failed
        decide

theorem kstrtoint_error {s : List Char} {base : ℕ} (failed : kstrtoint s base = .error rc) :
    rc ≠ 0 := by
  have mapped : ∀ (t : List Char) (f : ℕ → Int),
      ((f <$> kstrtoull t base) >>= fun value =>
        if -2 ^ 31 ≤ value ∧ value < 2 ^ 31 then Except.ok value else Except.error (-ERANGE)) =
          .error rc →
      rc ≠ 0 := by
    intro t f failed
    cases parsed : kstrtoull t base with
    | error code =>
      rw [parsed] at failed
      cases failed
      exact kstrtoull_error parsed
    | ok value =>
      rw [parsed] at failed
      change (if -2 ^ 31 ≤ f value ∧ f value < 2 ^ 31 then Except.ok (f value)
        else Except.error (-ERANGE)) =
        .error rc at failed
      split at failed
      · cases failed
      · cases failed
        decide
  unfold kstrtoint at failed
  split at failed
  · exact mapped _ _ failed
  · exact mapped _ _ failed
  · exact mapped _ _ failed

theorem readItem_error {item : List Char} (failed : readItem item = .error rc) : rc ≠ 0 := by
  unfold readItem at failed
  cases parsed : convert item with
  | ok _ =>
    rw [parsed] at failed
    cases failed
  | error code =>
    rw [parsed] at failed
    cases failed
    unfold convert at parsed
    split at parsed
    · exact kstrtoint_error parsed
    · exact kstrtoint_error parsed

theorem itemCode_eq_zero {text : List Char} : itemCode text = 0 ↔ readsCopied text = true := by
  unfold itemCode readsCopied
  cases read : readItem (copied text) with
  | ok _ => exact iff_of_true rfl rfl
  | error code => exact iff_of_false (readItem_error read) Bool.false_ne_true

theorem lastCode_eq_zero (texts : List (List Char)) :
    lastCode 0 texts = 0 ↔ ∀ last ∈ texts.getLast?, readsCopied last = true := by
  have from_code : ∀ rc, lastCode rc texts = (texts.getLast?.map itemCode).getD rc := by
    induction texts with
    | nil => exact fun _ => rfl
    | cons first texts ih =>
      intro rc
      rw [lastCode, ih]
      cases texts with
      | nil => rfl
      | cons second texts => simp [List.getLast?_cons]
  rw [from_code]
  cases texts.getLast? with
  | none => simp
  | some last => simpa using itemCode_eq_zero

/-! ## When the promise is kept -/

/-- The last item is refused and the others are no more than `sz`, or there are `sz` items, all of
    which can be read and say the same when they are cut to the size of the buffer. -/
def Suits (mem : Mem) (sz : ℕ) (items : List (Option ℕ)) : Prop :=
  (∀ item ∈ items, Readable mem item) ∧
    ((∃ last ∈ (items.map (itemText mem)).getLast?, readsCopied last = false) ∧
        (items.map (itemText mem)).countP readsCopied ≤ sz ∨
      items.length = sz ∧ ∀ item ∈ items, readsCopied (itemText mem item) = true ∧
        readItem (itemText mem item) = readItem (copied (itemText mem item)))

theorem readU32Array_none (missing : searchProperty mem props name = none) :
    readU32Array props name sz mem = .ok ((-EINVAL, []), mem) := by
  show (match searchProperty mem props name with
    | none => return (-EINVAL, [])
    | some prop => readLoop prop.items 0 0 [] : Text _) mem = _
  rw [missing]
  rfl

variable {prop : DsiParserProp}

theorem readU32Array_some (found : searchProperty mem props name = some prop) :
    readU32Array props name sz mem = readLoop prop.items 0 0 [] mem := by
  show (match searchProperty mem props name with
    | none => return (-EINVAL, [])
    | some prop => readLoop prop.items 0 0 [] : Text _) mem = _
  rw [found]

theorem first_items_iff (ends : ∀ last ∈ (prop.items.map (itemText mem)).getLast?,
    readsCopied last = true) :
    ((stored 0 (prop.items.map (itemText mem))).length = sz ∧
      ∀ k < sz, ∃ text val, (prop.items.map (itemText mem))[k]? = some text ∧
        readItem text = .ok val ∧ (stored 0 (prop.items.map (itemText mem)))[k]? = some (k, val)) ↔
    prop.items.length = sz ∧ ∀ item ∈ prop.items, readsCopied (itemText mem item) = true ∧
      readItem (itemText mem item) = readItem (copied (itemText mem item)) := by
  set texts := prop.items.map (itemText mem) with texts_eq
  have same : prop.items.length = texts.length := (List.length_map _).symm
  have every : (∀ item ∈ prop.items, readsCopied (itemText mem item) = true ∧
      readItem (itemText mem item) = readItem (copied (itemText mem item))) ↔
      ∀ text ∈ texts, readsCopied text = true ∧ readItem text = readItem (copied text) := by
    rw [texts_eq, List.forall_mem_map]
  rw [same, every]
  constructor
  · rintro ⟨length, first⟩
    have low : sz ≤ texts.length := by
      rcases Nat.eq_zero_or_pos sz with zero | positive
      · omega
      · obtain ⟨text, -, at_last, -⟩ := first (sz - 1) (by omega)
        obtain ⟨inside, -⟩ := List.getElem?_eq_some_iff.mp at_last
        omega
    have high : texts.length ≤ sz := by
      by_contra longer
      -- the last item is stored, behind the first `sz`
      have inside : texts.length - 1 < texts.length := by omega
      have last := ends texts[texts.length - 1]
        (by rw [List.getLast?_eq_getElem?, List.getElem?_eq_getElem inside]; rfl)
      unfold readsCopied at last
      cases read : readItem (copied texts[texts.length - 1]) with
      | error _ =>
        rw [read] at last
        cases last
      | ok val =>
        have member : (texts.length - 1, val) ∈ stored 0 texts :=
          mem_stored.mpr ⟨texts.length - 1, _, (Nat.zero_add _).symm,
            List.getElem?_eq_getElem inside, read⟩
        obtain ⟨k, low, at_k⟩ := List.getElem_of_mem member
        obtain ⟨-, value, -, -, stored_k⟩ := first k (by omega)
        rw [List.getElem?_eq_getElem low, at_k, Option.some.injEq, Prod.mk.injEq] at stored_k
        omega
    refine ⟨by omega, fun text member => ?_⟩
    obtain ⟨k, inside, rfl⟩ := List.getElem_of_mem member
    obtain ⟨text, val, at_k, full, stored_k⟩ := first k (by omega)
    rw [List.getElem?_eq_getElem inside, Option.some.injEq] at at_k
    subst at_k
    obtain ⟨k', text, place, at_k', cut⟩ := mem_stored.mp (List.mem_of_getElem? stored_k)
    obtain rfl : k = k' := by omega
    rw [List.getElem?_eq_getElem inside, Option.some.injEq] at at_k'
    subst at_k'
    rw [readsCopied, cut, full]
    exact ⟨rfl, rfl⟩
  · rintro ⟨length, all⟩
    have counted : texts.countP readsCopied = texts.length :=
      List.countP_eq_length.mpr fun text member => (all text member).1
    refine ⟨by rw [length_stored, counted, length], fun k below => ?_⟩
    have inside : k < texts.length := by omega
    obtain ⟨val, read, at_k⟩ := stored_all (i := 0) (fun text member => (all text member).1) inside
    refine ⟨texts[k], val, List.getElem?_eq_getElem inside, ?_, by rw [at_k, Nat.zero_add]⟩
    rw [(all _ (List.getElem_mem inside)).2, read]

/-- The promise is kept exactly for a property that is missing or that suits what is asked for. -/
theorem honours_iff (mem : Mem) (props : List DsiParserProp) (name : List Char) (sz : ℕ) :
    Honours mem props name sz ↔
      ∀ prop, searchProperty mem props name = some prop → Suits mem sz prop.items := by
  cases found : searchProperty mem props name with
  | none =>
    refine iff_of_true ⟨-EINVAL, [], readU32Array_none found, Nat.zero_le sz, ?_⟩
      fun _ other => nomatch other
    intro zero
    exact absurd zero (by decide)
  | some prop =>
    by_cases readable : ∀ item ∈ prop.items, Readable mem item
    · have run : readU32Array props name sz mem = .ok ((lastCode 0 (prop.items.map (itemText mem)),
          stored 0 (prop.items.map (itemText mem))), mem) :=
        (readU32Array_some found).trans (readLoop_readable readable)
      by_cases ends : ∀ last ∈ (prop.items.map (itemText mem)).getLast?, readsCopied last = true
      · have zero := (lastCode_eq_zero _).mpr ends
        have first := @first_items_iff _ sz _ ends
        constructor
        · rintro ⟨rc, out, ran, short, success⟩ prop' found'
          cases found'
          rw [run] at ran
          cases ran
          obtain ⟨length, prop', same, items⟩ := success zero
          rw [found] at same
          cases same
          exact ⟨readable, .inr (first.mp ⟨length, items⟩)⟩
        · intro suits
          have whole : prop.items.length = sz ∧ ∀ item ∈ prop.items,
              readsCopied (itemText mem item) = true ∧
                readItem (itemText mem item) = readItem (copied (itemText mem item)) := by
            obtain ⟨-, ⟨⟨last, member, refused⟩, -⟩ | whole⟩ := suits prop rfl
            · rw [ends last member] at refused
              cases refused
            · exact whole
          obtain ⟨length, items⟩ := first.mpr whole
          exact ⟨_, _, run, Nat.le_of_eq length, fun _ => ⟨length, prop, found, items⟩⟩
      · have nonzero := mt (lastCode_eq_zero _).mp ends
        push Not at ends
        obtain ⟨last, member, refused⟩ := ends
        rw [ne_eq, Bool.not_eq_true] at refused
        constructor
        · rintro ⟨rc, out, ran, short, -⟩ prop' found'
          cases found'
          rw [run] at ran
          cases ran
          rw [length_stored] at short
          exact ⟨readable, .inl ⟨⟨last, member, refused⟩, short⟩⟩
        · intro suits
          have short : (prop.items.map (itemText mem)).countP readsCopied ≤ sz := by
            obtain ⟨-, ⟨-, short⟩ | ⟨-, whole⟩⟩ := suits prop rfl
            · exact short
            · obtain ⟨item, inside, rfl⟩ := List.mem_map.mp (List.mem_of_getLast? member)
              rw [(whole item inside).1] at refused
              cases refused
          refine ⟨_, _, run, ?_, fun zero => absurd zero nonzero⟩
          rw [length_stored]
          exact short
    · refine iff_of_false ?_ fun suits => readable (suits prop rfl).1
      push Not at readable
      obtain ⟨item, member, unreadable⟩ := readable
      rintro ⟨rc, out, ran, -⟩
      rw [readU32Array_some found, readLoop_unreadable member unreadable] at ran
      cases ran

def threeItems : Mem := ['n', '{', 'p', '=', '<', '1', ' ', '2', ' ', '3', '>', ';', '}', NUL]

def threeItemsProp : DsiParserProp :=
  { name := some 2, raw := some ['<', '1', ' ', '2', ' ', '3', '>'], value := .ints [1, 2, 3],
    items := [some 5, some 7, some 9], itemsSize := some 14, type := .intSet }

def threeItemsCut : Mem := ['n', NUL, 'p', NUL, NUL, '1', NUL, '2', NUL, '3', NUL, NUL, NUL, NUL]

/-- Two of three items are asked for, and all three are stored. -/
theorem not_honours_threeItems :
    ¬∀ (text : Mem) (allocs : Allocs) (name data : ℕ) (props : List DsiParserProp)
      (children : List PropNode) (mem : Mem) (propname : List Char) (sz : ℕ),
      getHeadNode allocs text = .ok (some (.mk name data props children), mem) →
        Honours mem props propname sz := by
  intro every
  obtain ⟨rc, out, run, short, -⟩ :=
    every threeItems allAllocated 0 2 [threeItemsProp] [] threeItemsCut ['p'] 2 rfl
  have stores : readU32Array [threeItemsProp] ['p'] 2 threeItemsCut =
      .ok ((0, [(0, 1), (1, 2), (2, 3)]), threeItemsCut) := rfl
  rw [stores] at run
  cases run
  exact absurd short (by decide)

end DisplayDrivers.DsiParser
