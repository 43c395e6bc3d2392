import DisplayDrivers.DsiParser.Source

/-! # What is written is read

The parser works its way through the text and writes `NUL`s behind itself. The memory is split into
the part that it has left behind and the rest; `Source.Read` says that a node has been read from a
source and that all its strings end in the part left behind, where they stay.
-/

namespace DisplayDrivers.DsiParser

open DisplayDrivers.Lib.CString

variable {front rest : Mem}

/-! ## Names -/

structure LeadIn (pre ws : List Char) : Prop where
  pre : pre = [] ∨ ∃ close, pre = close ++ [';'] ∧ Blanks close
  ws : Blanks ws

def unstar (s : List Char) : List Char := s.map fun c => if c = '*' then ' ' else c

theorem unstar_length (s : List Char) : (unstar s).length = s.length := List.length_map _

theorem unstar_word {word : List Char} (plain : '*' ∉ word) : unstar word = word := by
  unfold unstar
  conv_rhs => rw [← List.map_id word]
  refine List.map_congr_left fun c member => ?_
  rw [if_neg fun same : c = '*' => plain (same ▸ member), id]

variable {s : List Char}

theorem unstar_blanks (blanks : Blanks s) : ∀ c ∈ unstar s, isSpace c = true := by
  intro c member
  obtain ⟨d, inside, rfl⟩ := List.mem_map.mp member
  split
  next => decide
  next other => exact (blanks d inside).resolve_right other

theorem unstar_clean (clean : NUL ∉ s) : NUL ∉ unstar s := by
  intro member
  obtain ⟨d, inside, same⟩ := List.mem_map.mp member
  split at same
  · exact absurd same (by decide)
  · exact clean (same ▸ inside)

theorem dsiStrim_middle (front rest : Mem) {ws word gap : List Char} (is : Word word)
    (plain : '*' ∉ word)
    (before : Blanks ws) (after : Blanks gap) (clean : NUL ∉ ws ++ word ++ gap) :
    ∃ left, left.length = gap.length ∧
      dsiStrim (front ++ (ws ++ word ++ gap) ++ NUL :: rest) front.length =
        (front ++ (unstar ws ++ word) ++ NUL :: (left ++ rest), front.length + ws.length) := by
  have split : (ws ++ word ++ gap).map (fun c => if c = '*' then ' ' else c) =
      unstar ws ++ word ++ unstar gap := by
    rw [List.map_append, List.map_append]
    exact congrArg (unstar ws ++ · ++ unstar gap) (unstar_word plain)
  have clean' : NUL ∉ unstar ws ++ word ++ unstar gap := split ▸ unstar_clean clean
  obtain ⟨left, same, trimmed⟩ := strim_middle front rest is
    (unstar_blanks before) (unstar_blanks after) clean'
  refine ⟨left, same.trans (unstar_length gap), ?_⟩
  rw [dsiStrim, strreplace_middle clean, split, trimmed, unstar_length]

theorem lastToken_lead (front rest : Mem) {pre ws : List Char} (lead : LeadIn pre ws)
    (free : Free s) :
    ∃ pre', pre'.length = pre.length ∧ (pre = [] → pre' = []) ∧ ∀ n, 2 ≤ n →
      lastToken n (front ++ (pre ++ s) ++ NUL :: rest) front.length =
        (front ++ pre' ++ s ++ NUL :: rest, (front ++ pre').length) := by
  have clean : NUL ∉ s := free.braceless.1
  have whole : ∀ a ∈ s, a ∉ [';'] := fun a member => by simpa using (free a member).2.2.1
  cases lead.pre with
  | inl none =>
    refine ⟨[], by rw [none], fun _ => rfl, fun n enough => ?_⟩
    obtain ⟨n, rfl⟩ : ∃ m, n = m + 1 := ⟨n - 1, by omega⟩
    rw [none, List.nil_append, List.append_nil, lastToken, strsep_last clean whole]
  | inr closed =>
    obtain ⟨close, rfl, blanks⟩ := closed
    have noSemicolon : ∀ a ∈ close, a ∉ [';'] := fun a member => by
      simpa using (blanks.free a member).2.2.1
    refine ⟨close ++ [NUL], by simp, fun none => absurd none (by simp), fun n enough => ?_⟩
    obtain ⟨n, rfl⟩ : ∃ m, n = m + 2 := ⟨n - 2, by omega⟩
    have memory : front ++ (close ++ [';'] ++ s) ++ NUL :: rest =
        front ++ close ++ ';' :: (s ++ NUL :: rest) := by simp
    have next : front ++ close ++ NUL :: (s ++ NUL :: rest) =
        front ++ (close ++ [NUL]) ++ s ++ NUL :: rest := by simp
    have behind : front.length + close.length + 1 = (front ++ (close ++ [NUL])).length := by
      simp [Nat.add_assoc]
    rw [lastToken, memory, strsep_middle blanks.free.braceless.1 noSemicolon (by decide) (by simp)]
    simp only
    rw [next, behind, lastToken, strsep_last clean whole]

theorem LeadIn.braceless {pre ws : List Char} (lead : LeadIn pre ws) : Braceless (pre ++ ws) := by
  refine Braceless.append ?_ lead.ws.free.braceless
  cases lead.pre with
  | inl none => exact none ▸ ⟨List.not_mem_nil, fun _ member => nomatch member⟩
  | inr closed =>
    obtain ⟨close, rfl, blanks⟩ := closed
    exact blanks.free.braceless.append braceless_semicolon

def Starts (front : Mem) (p : ℕ) : Prop := ∃ tail, ';' ∉ tail ∧ tail ≠ [] ∧ StringAt front p tail

theorem Starts.append {p : ℕ} (starts : Starts front p) (more : Mem) :
    Starts (front ++ more) p := by
  obtain ⟨tail, own, some, at_p⟩ := starts
  exact ⟨tail, own, some, at_p.append more⟩

theorem cleanName_lead (front rest : Mem) {pre ws word gap : List Char} (lead : LeadIn pre ws)
    (is : Word word)
    (plain : '*' ∉ word) (free : Free word) (after : Blanks gap) :
    ∃ header, header.length = (pre ++ (ws ++ word ++ gap)).length + 1 ∧
      cleanName (front ++ (pre ++ (ws ++ word ++ gap)) ++ NUL :: rest) front.length =
        (front ++ header ++ rest, front.length + pre.length + ws.length) ∧
      StringAt (front ++ header) (front.length + pre.length + ws.length) word ∧
      (pre = [] → Starts (front ++ header) front.length) := by
  have whole : Free (ws ++ word ++ gap) := (lead.ws.free.append free).append after.free
  have clean : NUL ∉ pre ++ (ws ++ word ++ gap) := by
    have parts := (lead.braceless.append (free.append after.free).braceless).1
    simpa [List.append_assoc] using parts
  obtain ⟨pre', length, same, token⟩ :=
    lastToken_lead front rest lead whole
  obtain ⟨left, room, trimmed⟩ := dsiStrim_middle (front ++ pre') rest is plain
    lead.ws after whole.braceless.1
  obtain ⟨c, more, starts, -⟩ := is.first
  have enough : 2 ≤ strlen (front ++ (pre ++ (ws ++ word ++ gap)) ++ NUL :: rest)
    front.length + 1 := by
    rw [strlen_middle clean, starts]
    simp only [List.length_append, List.length_cons]
    omega
  refine ⟨pre' ++ (unstar ws ++ word) ++ NUL :: left, ?_, ?_, ?_, ?_⟩
  · simp only [List.length_append, List.length_cons, unstar_length, length, room]
    omega
  · simp only [cleanName, token _ enough]
    rw [trimmed, List.length_append, length]
    simp
  · refine ⟨free.braceless.1, front ++ pre' ++ unstar ws, left, by simp, ?_⟩
    rw [List.length_append, List.length_append, unstar_length, length]
  · intro none
    obtain rfl := same none
    have own : ';' ∉ unstar ws ++ word := by
      rw [List.mem_append, not_or]
      exact ⟨fun member => absurd (unstar_blanks lead.ws _ member) (by decide), free.noSemicolon⟩
    have clean' : NUL ∉ unstar ws ++ word := by
      rw [List.mem_append, not_or]
      exact ⟨unstar_clean lead.ws.free.braceless.1, free.braceless.1⟩
    exact ⟨unstar ws ++ word, own, by simp [starts], clean', front, left, by simp, rfl⟩

/-! ## Data -/

variable {t : List Char}

theorem lastSemicolon_skip (front rest p : Mem) (none : ';' ∉ t) :
    lastSemicolon (front ++ (p ++ t) ++ rest) front.length (p.length + t.length) =
      lastSemicolon (front ++ (p ++ t) ++ rest) front.length p.length := by
  induction t using List.reverseRecOn generalizing rest with
  | nil => simp
  | append_singleton t a ih =>
    rw [List.mem_append, List.mem_singleton, not_or] at none
    have same : front ++ (p ++ (t ++ [a])) ++ rest = front ++ (p ++ t) ++ a :: rest := by simp
    have here : peek (front ++ (p ++ t) ++ a :: rest)
      (front.length + (p.length + t.length)) = a := by
      rw [← List.length_append, peek_middle]
    rw [same, List.length_append, List.length_singleton, ← Nat.add_assoc, lastSemicolon, here,
      if_neg (Ne.symm none.2)]
    exact ih _ none.1

theorem lastSemicolon_found {p : List Char} (none : ';' ∉ t) :
    lastSemicolon (front ++ (p ++ ';' :: t) ++ rest) front.length (p ++ ';' :: t).length =
      some (front.length + p.length) := by
  have memory : front ++ (p ++ ';' :: t) ++ rest = front ++ ((p ++ [';']) ++ t) ++ rest := by simp
  have length : (p ++ ';' :: t).length = (p ++ [';']).length + t.length := by
    simp only [List.length_append, List.length_cons, List.length_nil]
    omega
  have here : front ++ ((p ++ [';']) ++ t) ++ rest = front ++ p ++ ';' :: (t ++ rest) := by simp
  rw [memory, length, lastSemicolon_skip _ _ _ none, List.length_append, List.length_singleton,
    lastSemicolon, here, peek_middle, if_pos rfl]

theorem lastSemicolon_none (none : ';' ∉ t) :
    lastSemicolon (front ++ t ++ rest) front.length t.length = Option.none := by
  have skipped := lastSemicolon_skip front rest [] none
  simpa [lastSemicolon] using skipped

theorem getBlob_leaf (braceless : Braceless s) : getBlob (front ++ s ++ '}' :: rest) front.length =
      (front ++ s ++ NUL :: rest, front.length + s.length + 1, false) := by
  simp only [getBlob, strpbrk_middle braceless.1 braceless.2 (by decide : '}' ≠ NUL) (by simp),
    peek_middle, poke_middle]
  simp

theorem getBlob_properties {p : List Char} {c : Char} (braceless : Braceless (p ++ ';' :: c :: t))
    (none : ';' ∉ c :: t) : getBlob (front ++ (p ++ ';' :: c :: t) ++ '{' :: rest) front.length =
      (front ++ (p ++ ';' :: NUL :: t) ++ '{' :: rest, front.length + p.length + 2, true) := by
  have memory : front ++ (p ++ ';' :: c :: t) ++ '{' :: rest =
      front ++ (p ++ [';']) ++ c :: (t ++ '{' :: rest) := by simp
  have behind : front.length + p.length + 1 = front.length + (p ++ [';']).length := by
    simp [Nat.add_assoc]
  simp only [getBlob, strpbrk_middle braceless.1 braceless.2 (by decide : '{' ≠ NUL) (by simp),
    peek_middle, if_pos, Nat.add_sub_cancel_left, lastSemicolon_found none]
  rw [memory, behind, poke_middle]
  simp

theorem getBlob_child (braceless : Braceless s) (none : ';' ∉ s) :
    getBlob (front ++ s ++ '{' :: rest) front.length =
      (front ++ s ++ '{' :: rest, front.length, true) := by
  simp only [getBlob, strpbrk_middle braceless.1 braceless.2 (by decide : '{' ≠ NUL) (by simp),
    peek_middle, if_pos, Nat.add_sub_cancel_left, lastSemicolon_none none]

/-! ## Nodes -/

mutual

/-- The node has been read from the source, and its strings end in `front`.  Its data are its
    properties and a tail without one; only a node without children can have no data at all. -/
inductive Source.Read (front : Mem) : Source → Node → Prop
  | node {lead name gap last tail : List Char} {properties : List (List Char)} {children : Sources}
      {nameAt dataAt : ℕ} {nodes : List Node} (named : StringAt front nameAt name)
      (data : StringAt front dataAt (propertyText properties ++ tail)) (own : ';' ∉ tail)
      (some : nodes = [] ∨ propertyText properties ++ tail ≠ [])
        (read : children.Read front nodes) :
      Source.Read front (.node lead name gap properties children last) (.mk nameAt dataAt 0 nodes)

inductive Sources.Read (front : Mem) : Sources → List Node → Prop
  | nil : Sources.Read front .nil []
  | cons {first : Source} {close : List Char} {later : Sources} {node : Node} {nodes : List Node}
      (one : first.Read front node) (others : later.Read front nodes) :
      Sources.Read front (.cons first close later) (node :: nodes)

end

mutual

theorem Source.Read.append {src : Source} {node : Node} (read : src.Read front node) (more : Mem) :
    src.Read (front ++ more) node := by
  cases read with
  | node named data own some read =>
    exact .node (named.append more) (data.append more) own some (read.append more)

theorem Sources.Read.append {srcs : Sources} {nodes : List Node} (read : srcs.Read front nodes)
    (more : Mem) : srcs.Read (front ++ more) nodes := by
  cases read with
  | nil => exact .nil
  | cons one others => exact .cons (one.append more) (others.append more)

end

mutual

def Source.calls : Source → ℕ
  | .node _ _ _ _ children _ => children.calls + 1

def Sources.calls : Sources → ℕ
  | .nil => 2
  | .cons first _ rest => first.calls + rest.calls + 1

end

def Sources.lead : Sources → List Char
  | .nil => []
  | .cons first _ _ => first.lead

def Sources.after (last : List Char) : Sources → List Char
  | .nil => last ++ ['}']
  | .cons first close rest => first.core ++ (close ++ [';']) ++ (rest.text ++ last ++ ['}'])

theorem Sources.text_eq (srcs : Sources) (last : List Char) :
    srcs.text ++ last ++ ['}'] = srcs.lead ++ srcs.after last := by
  cases srcs with
  | nil => simp [Sources.text, Sources.lead, Sources.after]
  | cons first close rest => simp [Sources.text, Sources.lead, Sources.after]

theorem findNodes_open (front rest : Mem) {pre ws name gap : List Char} (body : List Char)
    (lead : LeadIn pre ws) (is : Word name) (plain : '*' ∉ name) (free : Free name)
    (blanks : Blanks gap) :
    ∃ header nameAt, header.length = (pre ++ ws ++ name ++ gap).length + 1 ∧
      StringAt (front ++ header) nameAt name ∧
      (pre = [] → Starts (front ++ header) front.length) ∧
      ∀ fuel, findNodes (fun _ => true) (fuel + 1)
          (front ++ (pre ++ ws ++ (name ++ gap ++ '{' :: body)) ++ rest) front.length =
        let (mem, buf, hasChild) :=
          getBlob (front ++ header ++ (body ++ rest)) (front ++ header).length
        if hasChild then
          (findChildren (fun _ => true) fuel mem buf []).map fun (mem, buf, children) =>
            (mem, buf, some (.mk nameAt (front ++ header).length 0 children))
        else some (mem, buf, some (.mk nameAt (front ++ header).length 0 [])) := by
  obtain ⟨header, length, cleaned, named, whole⟩ := cleanName_lead front
    (body ++ rest) lead is plain free blanks
  have braceless : Braceless (pre ++ (ws ++ name ++ gap)) := by
    have parts := lead.braceless.append (free.append blanks.free).braceless
    simpa [List.append_assoc] using parts
  have opening : ∀ a ∈ pre ++ (ws ++ name ++ gap), a ∉ ['{'] := fun a member inside =>
    braceless.2 a member (List.mem_cons.mpr (.inl (List.mem_singleton.mp inside)))
  have memory : front ++ (pre ++ ws ++ (name ++ gap ++ '{' :: body)) ++ rest =
      front ++ (pre ++ (ws ++ name ++ gap)) ++ '{' :: (body ++ rest) := by simp
  have behind : front.length + (pre ++ (ws ++ name ++ gap)).length + 1 =
    (front ++ header).length := by
    have total : (front ++ header).length = front.length + header.length := List.length_append
    rw [total, length, Nat.add_assoc]
  refine ⟨header, _, by simpa using length, named, whole, fun fuel => ?_⟩
  rw [findNodes, memory, strpbrk_middle braceless.1 braceless.2 (by decide) (by simp)]
  simp only [peek_middle, strsep_middle braceless.1 opening (by decide : '{' ≠ NUL)
    (by simp), behind,
    cleaned]
  rfl

theorem Source.core_head {src : Source} (written : src.Written) :
    ∃ head body, src.core = head ++ '{' :: body ∧ Free head ∧ head ≠ [] ∧ Blanks src.lead := by
  cases src with
  | node lead name gap properties children last =>
    obtain ⟨⟨leadBlanks, gapBlanks, -⟩, ⟨is, free⟩, -⟩ := written
    obtain ⟨c, more, starts, -⟩ := is.first
    exact ⟨name ++ gap, _, rfl, free.append gapBlanks.free, by simp [starts], leadBlanks⟩

theorem propertyText_cons (p : List Char) (properties : List (List Char)) :
    ∃ init, propertyText (p :: properties) = init ++ [';'] := by
  induction properties generalizing p with
  | nil => exact ⟨p, by simp [propertyText]⟩
  | cons q more ih =>
    obtain ⟨init, is⟩ := ih q
    refine ⟨p ++ ';' :: init, ?_⟩
    have split : propertyText (p :: q :: more) = p ++ ';' :: propertyText (q :: more) := by
      simp [propertyText]
    rw [split, is]
    simp

/-- What the loop over the children does with a text that starts with the children `srcs`. -/
structure Children (front text rest done : Mem) (calls : ℕ) (srcs : Sources) (nodes : List Node) :
    Prop where
  length : done.length = text.length
  result : ∀ fuel, calls ≤ fuel → ∀ found : List Node,
    found.length + srcs.length ≤ DSI_PARSER_MAX_NODES →
      findChildren (fun _ => true) fuel (front ++ text ++ rest) front.length found =
        some (front ++ done ++ rest, (front ++ done).length, found ++ nodes)
  read : srcs.Read (front ++ done) nodes

variable {properties : List (List Char)}

theorem getBlob_cut (front body : Mem) {lead head : List Char}
    (free : ∀ p ∈ properties, Free p) (blanks : Blanks lead) (freeHead : Free head)
    (apart : properties = [] ∨ lead ≠ []) :
    ∃ cut ws, Blanks ws ∧ (cut ++ ws).length = (propertyText properties ++ lead).length ∧
      getBlob (front ++ (propertyText properties ++ lead ++ head) ++ '{' :: body) front.length =
        (front ++ cut ++ (ws ++ (head ++ '{' :: body)), (front ++ cut).length, true) ∧
      ((properties = [] ∧ cut = []) ∨
        (properties ≠ [] ∧ StringAt (front ++ cut) front.length (propertyText properties))) := by
  cases properties with
  | nil =>
    have own : Free (lead ++ head) := blanks.free.append freeHead
    have memory : front ++ (propertyText [] ++ lead ++ head) ++ '{' :: body =
        front ++ (lead ++ head) ++ '{' :: body := by simp [propertyText]
    refine ⟨[], lead, blanks, by simp [propertyText], ?_, .inl ⟨rfl, rfl⟩⟩
    rw [memory, getBlob_child own.braceless own.noSemicolon]
    simp
  | cons p more =>
    obtain ⟨init, text⟩ := propertyText_cons p more
    have textBraceless : Braceless (propertyText (p :: more)) := braceless_propertyText free
    cases lead with
    | nil => exact absurd rfl (apart.resolve_left (List.cons_ne_nil p more))
    | cons c ws =>
      have own : Free (c :: (ws ++ head)) := (blanks.free.append freeHead)
      have braceless : Braceless (init ++ ';' :: c :: (ws ++ head)) := by
        have parts := textBraceless.append own.braceless
        rw [text] at parts
        simpa using parts
      have memory : front ++ (propertyText (p :: more) ++ c :: ws ++ head) ++ '{' :: body =
          front ++ (init ++ ';' :: c :: (ws ++ head)) ++ '{' :: body := by rw [text]; simp
      refine ⟨propertyText (p :: more) ++ [NUL], ws, fun a member => blanks a (.tail c member),
        by simp, ?_, .inr ⟨List.cons_ne_nil p more, ?_⟩⟩
      · rw [memory, getBlob_properties braceless own.noSemicolon, text]
        simp [Nat.add_assoc]
      · rw [← List.append_assoc]
        exact stringAt_middle textBraceless.1

structure Parses (front text rest done : Mem) (src : Source) (node : Node) : Prop where
  length : done.length = text.length
  result : ∀ fuel, src.calls ≤ fuel →
    findNodes (fun _ => true) fuel (front ++ text ++ rest) front.length =
      some (front ++ done ++ rest, (front ++ done).length, some node)
  read : src.Read (front ++ done) node

theorem Sources.parse_nil (front rest : Mem) {pre ws last : List Char} (lead : LeadIn pre ws)
    (blanks : Blanks last) :
    Children front (pre ++ ws ++ Sources.after last .nil) rest
    (pre ++ ws ++ Sources.after last .nil)
      (Sources.calls .nil) .nil [] where
  length := rfl
  read := .nil
  result fuel enough found _ := by
    obtain ⟨n, rfl⟩ : ∃ n, fuel = n + 2 := ⟨fuel - 2, by simp only [Sources.calls] at enough; omega⟩
    have braceless : Braceless (pre ++ ws ++ last) := lead.braceless.append blanks.free.braceless
    have memory : front ++ (pre ++ ws ++ Sources.after last .nil) ++ rest =
        front ++ (pre ++ ws ++ last) ++ '}' :: rest := by simp [Sources.after]
    have behind : front.length + (pre ++ ws ++ last).length + 1 =
        (front ++ (pre ++ ws ++ Sources.after last .nil)).length := by
      simp only [Sources.after, List.length_append, List.length_singleton]
      omega
    rw [findChildren, findNodes, memory,
      strpbrk_middle braceless.1 braceless.2 (by decide : '}' ≠ NUL) (by simp)]
    simp only [peek_middle, if_pos, behind, List.append_nil]

theorem Source.parse_leaf (front rest : Mem) {pre ws lead name gap last : List Char}
    (before : LeadIn pre ws)
    (written : (Source.node lead name gap properties .nil last).Written)
    (plain : (Source.node lead name gap properties .nil last).Plain) :
    ∃ done node,
    Parses front (pre ++ ws ++ (Source.node lead name gap properties .nil last).core) rest
      done (.node lead name gap properties .nil last) node ∧
      (pre = [] → Starts (front ++ done) front.length) := by
  obtain ⟨⟨-, gapBlanks, lastBlanks⟩, ⟨is, free⟩, own, -⟩ := written
  obtain ⟨header, nameAt, length, named, whole, opened⟩ := findNodes_open front rest
    (propertyText properties ++ Sources.text .nil ++ last ++ ['}']) before is plain.1 free gapBlanks
  have braceless : Braceless (propertyText properties ++ last) :=
    (braceless_propertyText own).append lastBlanks.free.braceless
  have memory : front ++ header ++ (propertyText properties ++ Sources.text
    .nil ++ last ++ ['}'] ++ rest) =
      front ++ header ++ (propertyText properties ++ last) ++ '}' :: rest := by simp [Sources.text]
  have data : StringAt (front ++ (header ++ (propertyText properties ++ last ++ [NUL])))
      (front ++ header).length (propertyText properties ++ last) := by
    have here : StringAt (front ++ header ++ (propertyText properties ++ last) ++ NUL :: [])
        (front ++ header).length (propertyText properties ++ last) := stringAt_middle braceless.1
    simpa [List.append_assoc] using here
  refine ⟨header ++ (propertyText properties ++ last ++ [NUL]),
    .mk nameAt (front ++ header).length 0 [], ⟨?_, fun fuel enough => ?_, ?_⟩, fun none => ?_⟩
  · simp only [Source.core, Sources.text, List.length_append, List.length_cons,
      List.length_nil, length]
    omega
  · obtain ⟨n, rfl⟩ : ∃ n, fuel = n + 1 := ⟨fuel - 1, by simp only [Source.calls] at enough; omega⟩
    rw [Source.core, opened n, memory, getBlob_leaf braceless]
    simp [Nat.add_assoc]
  · refine .node ?_ data lastBlanks.free.noSemicolon (.inl rfl) .nil
    rw [← List.append_assoc]
    exact named.append _
  · rw [← List.append_assoc]
    exact (whole none).append _

theorem Sources.Read.ne_nil {first : Source} {close : List Char} {later : Sources}
    {nodes : List Node}
    (read : (Sources.cons first close later).Read front nodes) : nodes ≠ [] := by
  cases read with
  | cons one others => exact List.cons_ne_nil _ _

theorem Sources.Written.lead_blanks {srcs : Sources} (written : srcs.Written) :
    Blanks srcs.lead := by
  cases srcs with
  | nil => exact fun _ member => nomatch member
  | cons first close later =>
    obtain ⟨_, _, _, _, _, blanks⟩ := first.core_head written.1
    exact blanks

theorem data_of_cut {header cut done : Mem}
    (kept : (properties = [] ∧ cut = []) ∨ (properties ≠ [] ∧
      StringAt (front ++ header ++ cut) (front ++ header).length (propertyText properties)))
    (starts : Starts (front ++ header ++ cut ++ done) (front ++ header ++ cut).length) :
    ∃ tail, ';' ∉ tail ∧ propertyText properties ++ tail ≠ [] ∧
      StringAt (front ++ header ++ cut ++ done) (front ++ header).length
        (propertyText properties ++ tail) := by
  cases kept with
  | inl none =>
    obtain ⟨rfl, rfl⟩ := none
    obtain ⟨tail, own, some, at_data⟩ := starts
    refine ⟨tail, own, by simpa [propertyText] using some, ?_⟩
    simpa [propertyText] using at_data
  | inr cut_off =>
    refine ⟨[], List.not_mem_nil, ?_, ?_⟩
    · cases properties with
      | nil => exact absurd rfl cut_off.1
      | cons p more => simp [propertyText]
    · rw [List.append_nil]
      exact cut_off.2.append done

mutual

theorem Source.parse (src : Source) (written : src.Written) (plain : src.Plain) {pre ws : List Char}
    (before : LeadIn pre ws) (front rest : Mem) : ∃ done node,
      Parses front (pre ++ ws ++ src.core) rest done src node ∧
      (pre = [] → Starts (front ++ done) front.length) := by
  cases src with
  | node lead name gap properties children last =>
    have loop : ∀ front' ws', Blanks ws' → ∃ done nodes,
        Children front' ([] ++ ws' ++ children.after last) rest done children.calls children nodes ∧
        (([] : List Char) = [] → nodes ≠ [] → Starts (front' ++ done) front'.length) :=
      fun front' ws' white => Sources.parse children written.2.2.2.2.2 plain.2 ⟨.inl rfl, white⟩
        written.1.2.2 front' rest
    cases children with
    | nil => exact Source.parse_leaf front rest before written plain
    | cons first close later =>
      obtain ⟨⟨-, gapBlanks, -⟩, ⟨is, free⟩, own, apart, few, inner⟩ := written
      obtain ⟨header, nameAt, length, named, whole, opened⟩ := findNodes_open front rest
        (propertyText properties ++ (Sources.cons first close later).text ++ last ++ ['}']) before
          is
        plain.1 free gapBlanks
      obtain ⟨head, body, core, freeHead, some, leadBlanks⟩ := first.core_head inner.1
      obtain ⟨cut, ws', white, shorter, cuts, kept⟩ := getBlob_cut (front ++ header)
        (body ++ (close ++ [';']) ++ (later.text ++ last ++ ['}']) ++ rest) own leadBlanks
          freeHead apart
      obtain ⟨done, nodes, looped, starts⟩ := loop (front ++ header ++ cut) ws' white
      obtain ⟨tail, noSemicolon, nonempty, data⟩ := data_of_cut kept (starts rfl looped.read.ne_nil)
      have uncut : front ++ header ++
        (propertyText properties ++ (Sources.cons first close later).text ++
          last ++ ['}'] ++ rest) =
            front ++ header ++ (propertyText properties ++ first.lead ++ head) ++
            '{' :: (body ++ (close ++ [';']) ++ (later.text ++ last ++ ['}']) ++ rest) := by
        simp [Sources.text, core]
      have inside : front ++ header ++ cut ++
          (ws' ++ (head ++ '{' ::
            (body ++ (close ++ [';']) ++ (later.text ++ last ++ ['}']) ++ rest))) =
            front ++ header ++ cut ++ ([] ++ ws' ++ Sources.after last
              (.cons first close later)) ++ rest := by
        simp [Sources.after, core]
      refine ⟨header ++ (cut ++ done), .mk nameAt (front ++ header).length 0 nodes,
        ⟨?_, fun fuel enough => ?_, ?_⟩, fun none => ?_⟩
      · have room := looped.length
        simp only [Source.core, Sources.text, Sources.after, List.length_append, List.length_cons,
          List.length_nil] at room shorter length ⊢
        omega
      · obtain ⟨n, rfl⟩ : ∃ n, fuel = n + 1 :=
          ⟨fuel - 1, by simp only [Source.calls] at enough; omega⟩
        have enough' : (Sources.cons first close later).calls ≤ n := by
          simp only [Source.calls] at enough
          omega
        rw [Source.core, opened n, uncut, cuts]
        simp only [if_pos]
        rw [inside, looped.result n enough' [] (by simpa using few)]
        simp
      · have read := looped.read
        rw [← List.append_assoc, ← List.append_assoc]
        exact .node ((named.append cut).append done) data noSemicolon (.inr nonempty) read
      · rw [← List.append_assoc]
        exact (whole none).append _

theorem Sources.parse (srcs : Sources) (written : srcs.Written) (plain : srcs.Plain)
    {pre ws last : List Char} (before : LeadIn pre ws) (blanks : Blanks last) (front rest : Mem) :
    ∃ done nodes, Children front (pre ++ ws ++ srcs.after last) rest done srcs.calls srcs nodes ∧
      (pre = [] → nodes ≠ [] → Starts (front ++ done) front.length) := by
  cases srcs with
  | nil => exact ⟨_, [], Sources.parse_nil front rest before blanks, fun _ some => absurd rfl some⟩
  | cons first close later =>
    obtain ⟨firstWritten, closeBlanks, laterWritten⟩ := written
    have text : Sources.after last (.cons first close later) =
        first.core ++ (close ++ [';'] ++ later.lead ++ later.after last) := by
      rw [Sources.after, Sources.text_eq]
      simp
    obtain ⟨done, node, one, starts⟩ := first.parse firstWritten plain.1 before front
      (close ++ [';'] ++ later.lead ++ later.after last ++ rest)
    have leads : LeadIn (close ++ [';']) later.lead :=
      ⟨.inr ⟨close, rfl, closeBlanks⟩, laterWritten.lead_blanks⟩
    obtain ⟨done', nodes, others, -⟩ :=
      later.parse laterWritten plain.2 leads blanks (front ++ done) rest
    refine ⟨done ++ done', node :: nodes, ⟨?_, fun fuel enough found room => ?_, ?_⟩,
      fun none _ => ?_⟩
    · have room := one.length
      have room' := others.length
      rw [text]
      simp only [List.length_append, List.length_cons, List.length_nil] at room room' ⊢
      omega
    · obtain ⟨n, rfl⟩ : ∃ n, fuel = n + 1 :=
        ⟨fuel - 1, by simp only [Sources.calls] at enough; omega⟩
      have calls : first.calls ≤ n ∧ later.calls ≤ n := by
        simp only [Sources.calls] at enough
        omega
      have places : found.length + 1 + later.length ≤ DSI_PARSER_MAX_NODES := by
        simp only [Sources.length] at room
        omega
      have memory : front ++ (pre ++ ws ++ Sources.after last (.cons first close later)) ++ rest =
          front ++ (pre ++ ws ++ first.core) ++
            (close ++ [';'] ++ later.lead ++ later.after last ++ rest) := by
        rw [text]
        simp
      have next : front ++ done ++ (close ++ [';'] ++ later.lead ++ later.after last ++ rest) =
          front ++ done ++ (close ++ [';'] ++ later.lead ++ later.after last) ++ rest := by
        simp
      rw [findChildren, memory, one.result n calls.1]
      simp only
      rw [if_pos (by omega), next, others.result n calls.2 (found ++ [node])
        (by simpa using places)]
      simp
    · rw [← List.append_assoc]
      exact .cons (one.read.append done') others.read
    · rw [← List.append_assoc]
      exact (starts none).append done'

end

/-! ## Trees -/

mutual

theorem Source.Read.tree {src : Source} {node : Node} (read : src.Read front node)
    (written : src.Written) (rest : Mem) :
    (countProperties (front ++ rest) node).tree (front ++ rest) = src.tree := by
  cases read with
  | node named data own some children =>
    obtain ⟨-, -, free, -, -, inner⟩ := written
    have dataIs := data.cstr rest
    rw [countProperties]
    split
    next empty =>
      -- no data at all: neither properties nor children
      rw [strlen, dataIs] at empty
      have none := List.length_eq_zero_iff.mp empty
      obtain rfl := some.resolve_right (absurd none)
      cases children with
      | nil =>
        have noProperties := take_tokens free own
        rw [none] at noProperties
        rw [Node.tree, named.cstr rest, Node.trees, Source.tree, Sources.trees, ← noProperties]
        rfl
    next =>
      rw [Node.tree, named.cstr rest, dataIs, take_tokens free own, children.trees inner rest,
        Source.tree]

theorem Sources.Read.trees {srcs : Sources} {nodes : List Node} (read : srcs.Read front nodes)
    (written : srcs.Written) (rest : Mem) :
    Node.trees (front ++ rest) (countAll (front ++ rest) nodes) = srcs.trees := by
  cases read with
  | nil => rfl
  | cons one others =>
    rw [countAll, Node.trees, one.tree written.1 rest, others.trees written.2.2 rest, Sources.trees]

end

def RoundTrips (src : Source) : Prop :=
  ∀ after, ∃ fuel mem node, ∀ more, fuel ≤ more →
    findNodes (fun _ => true) more (src.text ++ after) 0 = some (mem, src.text.length, some node) ∧
      (countProperties mem node).tree mem = src.tree

/-- A text that is written by the rules, with names that the tokenizer keeps, is parsed into the tree
    that it was written from, whatever follows it. -/
theorem roundTrips_of_plain {src : Source} (written : src.Written) (plain : src.Plain) :
    RoundTrips src := by
  intro after
  obtain ⟨_, _, _, _, _, blanks⟩ := src.core_head written
  obtain ⟨done, node, parsed, -⟩ :=
    src.parse written plain (⟨.inl rfl, blanks⟩ : LeadIn [] src.lead) [] after
  refine ⟨src.calls, done ++ after, node, fun more enough => ⟨?_, ?_⟩⟩
  · have result := parsed.result more enough
    have length := parsed.length
    simpa [Source.text, length] using result
  · have read := parsed.read
    exact read.tree written after

def panel : Source :=
  .node [] ['p', 'a', 'n', 'e', 'l'] [' '] [[' ', 'o', 'n']]
    (.cons (.node [' '] ['t'] [' '] [[' ', 'r']] .nil [' ']) [] .nil) [' ']

theorem written_panel : panel.Written := by
  have word : Word ['p', 'a', 'n', 'e', 'l'] :=
    ⟨⟨'p', _, rfl, by decide⟩, ⟨['p', 'a', 'n', 'e'], 'l', rfl, by decide⟩⟩
  have word' : Word ['t'] := ⟨⟨'t', _, rfl, by decide⟩, ⟨[], 't', rfl, by decide⟩⟩
  simp [panel, Source.Written, Sources.Written, Sources.length, Sources.Apart, Source.lead,
    Blanks, Blank,
    Free, word, word', NUL, isSpace, DSI_PARSER_MAX_NODES]

theorem roundTrips_panel : RoundTrips panel :=
  roundTrips_of_plain written_panel (by simp [panel, Source.Plain, Sources.Plain])

def starred : Source := .node [] ['a', '*', 'b'] [' '] [] .nil [' ']

/-- What stands before a star in a name is cut off. -/
theorem not_roundTrips_starred : starred.Written ∧ ¬ RoundTrips starred := by
  refine ⟨?_, fun roundTrips => ?_⟩
  · have word : Word ['a', '*', 'b'] :=
      ⟨⟨'a', _, rfl, by decide⟩, ⟨['a', '*'], 'b', rfl, by decide⟩⟩
    simp [starred, Source.Written, Sources.Written, Sources.length, Sources.Apart,
      Blanks, Blank, Free,
      word, NUL, isSpace]
  · obtain ⟨fuel, mem, node, results⟩ := roundTrips [';']
    obtain ⟨result, tree⟩ := results (fuel + 1) (Nat.le_succ fuel)
    have read : findNodes (fun _ => true) (fuel + 1) (starred.text ++ [';']) 0 =
        some ([ 'a', ' ', 'b', NUL, NUL, ' ', NUL, ';'], 7, some (.mk 0 5 0 [])) := rfl
    rw [read] at result
    cases result
    exact absurd tree
      (by simp [countProperties, Node.tree, strlen, cstr, NUL, starred, Source.tree])

end DisplayDrivers.DsiParser
