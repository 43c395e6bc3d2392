import DisplayDrivers.DsiParser.Nodes

/-! # How a node tree is written

A node is written as `name { p1; ...; pn; child { ... }; ... };` with white space between the
tokens. `Source` keeps the white space, so that its text is any such text.
-/

namespace DisplayDrivers.DsiParser

open DisplayDrivers.Lib.CString

mutual

/-- `lead` is the white space before the name, `gap` and `last` that before the two braces.  Each
    property is written with the white space before it. -/
inductive Source
  | node (lead name gap : List Char) (properties : List (List Char)) (children : Sources)
    (last : List Char)

inductive Sources
  | nil
  | cons (first : Source) (close : List Char) (rest : Sources)

end

def Source.lead : Source → List Char
  | .node lead _ _ _ _ _ => lead

def propertyText (properties : List (List Char)) : List Char := properties.flatMap (· ++ [';'])

mutual

def Source.core : Source → List Char
  | .node _ name gap properties children last =>
    name ++ gap ++ '{' :: (propertyText properties ++ children.text ++ last ++ ['}'])

def Sources.text : Sources → List Char
  | .nil => []
  | .cons first close rest => first.lead ++ first.core ++ close ++ ';' :: rest.text

end

def Source.text (src : Source) : List Char := src.lead ++ src.core

mutual

def Source.tree : Source → Tree
  | .node _ name _ properties children _ => .node name properties children.trees

def Sources.trees : Sources → List Tree
  | .nil => []
  | .cons first _ rest => first.tree :: rest.trees

end

def Sources.length : Sources → ℕ
  | .nil => 0
  | .cons _ _ rest => rest.length + 1

def Blank (c : Char) : Prop := isSpace c = true ∨ c = '*'

def Blanks (s : List Char) : Prop := ∀ c ∈ s, Blank c

def Free (s : List Char) : Prop := ∀ c ∈ s, c ≠ '{' ∧ c ≠ '}' ∧ c ≠ ';' ∧ c ≠ NUL

def Sources.Apart : Sources → Prop
  | .nil => True
  | .cons first _ _ => first.lead ≠ []

mutual

/-- White space, names and properties are what they should be, and no node has more than
    `DSI_PARSER_MAX_NODES` children. -/
def Source.Written : Source → Prop
  | .node lead name gap properties children last =>
    (Blanks lead ∧ Blanks gap ∧ Blanks last) ∧ (Word name ∧ Free name) ∧
      (∀ p ∈ properties, Free p) ∧ (properties = [] ∨ children.Apart) ∧
      children.length ≤ DSI_PARSER_MAX_NODES ∧ children.Written

def Sources.Written : Sources → Prop
  | .nil => True
  | .cons first close rest => first.Written ∧ Blanks close ∧ rest.Written

end

mutual

def Source.Plain : Source → Prop
  | .node _ name _ _ children _ => '*' ∉ name ∧ children.Plain

def Sources.Plain : Sources → Prop
  | .nil => True
  | .cons first _ rest => first.Plain ∧ rest.Plain

end

/-! ## What the text is made of -/

theorem Blank.ne {c : Char} (blank : Blank c) : c ≠ '{' ∧ c ≠ '}' ∧ c ≠ ';' ∧ c ≠ NUL := by
  refine ⟨?_, ?_, ?_, ?_⟩
  all_goals
    rintro rfl
    cases blank with
    | inl space => exact absurd space (by decide)
    | inr star => exact absurd star (by decide)

variable {s : List Char}

theorem Blanks.free (blanks : Blanks s) : Free s := fun c member => (blanks c member).ne

theorem Free.append {t : List Char} (left : Free s) (right : Free t) : Free (s ++ t) := by
  intro c member
  cases List.mem_append.mp member with
  | inl inside => exact left c inside
  | inr inside => exact right c inside

theorem Free.noSemicolon (free : Free s) : ';' ∉ s := fun member => (free _ member).2.2.1 rfl

def Braceless (s : List Char) : Prop := NUL ∉ s ∧ ∀ c ∈ s, c ∉ ['{', '}']

theorem Braceless.append {t : List Char} (left : Braceless s) (right : Braceless t) :
    Braceless (s ++ t) := by
  constructor
  · exact fun member => (List.mem_append.mp member).elim left.1 right.1
  · exact fun c member => (List.mem_append.mp member).elim (left.2 c) (right.2 c)

theorem Free.braceless (free : Free s) : Braceless s := by
  constructor
  · exact fun member => (free _ member).2.2.2 rfl
  · intro c member
    simp [(free c member).1, (free c member).2.1]

theorem braceless_semicolon : Braceless [';'] := by
  constructor
  · simp [NUL]
  · simp

variable {properties : List (List Char)}

theorem braceless_propertyText (free : ∀ p ∈ properties, Free p) :
    Braceless (propertyText properties) := by
  induction properties with
  | nil => exact ⟨List.not_mem_nil, fun _ member => nomatch member⟩
  | cons p rest ih =>
    have later := ih fun q member => free q (List.mem_cons_of_mem p member)
    rw [propertyText, List.flatMap_cons]
    exact ((free p List.mem_cons_self).braceless.append braceless_semicolon).append later

/-! ## Properties -/

theorem tokens_append {p : List Char} (free : ';' ∉ p) (rest : List Char) :
    tokens (p ++ ';' :: rest) = p :: tokens rest := by
  induction p with
  | nil => simp [tokens]
  | cons c p ih =>
    rw [List.mem_cons, not_or] at free
    obtain ⟨differ, later⟩ := free
    rw [List.cons_append, tokens, if_neg (Ne.symm differ), ih later]

theorem take_tokens (free : ∀ p ∈ properties, Free p) {tail : List Char} (own : ';' ∉ tail) :
    (tokens (propertyText properties ++ tail)).take
      ((propertyText properties ++ tail).count ';') = properties := by
  induction properties with
  | nil =>
    have none : tail.count ';' = 0 := List.count_eq_zero.mpr own
    simp [propertyText, none]
  | cons p rest ih =>
    have here : ';' ∉ p := (free p List.mem_cons_self).noSemicolon
    have text : propertyText (p :: rest) ++ tail = p ++ ';' :: (propertyText rest ++ tail) := by
      simp [propertyText]
    rw [text, tokens_append here, List.count_append, List.count_eq_zero.mpr here,
      List.count_cons_self,
      Nat.zero_add, List.take_succ_cons, ih fun q member => free q (List.mem_cons_of_mem p member)]

end DisplayDrivers.DsiParser
