import DisplayDrivers.Lib.CString

/-! # The node tree of a DSI parser file

`dsi_parser_find_nodes` cuts the text into nodes in place: names, data and properties are pointers
into the text, and a `NUL` is written behind each of them.
-/

namespace DisplayDrivers.DsiParser

open DisplayDrivers.Lib.CString

def DSI_PARSER_MAX_NODES : ℕ := 20

/-- `struct dsi_parser_node`; `name` and `data` point into the text. -/
inductive Node
  | mk (name data propCount : ℕ) (children : List Node)

def dsiStrim (mem : Mem) (buf : ℕ) : Mem × ℕ := strim (strreplace mem buf '*' ' ') buf

/-- `while (name) clean_name = strsep(&name, ";");`, at most `n` times. -/
def lastToken : ℕ → Mem → ℕ → Mem × ℕ
  | 0, mem, name => (mem, name)
  | n + 1, mem, name =>
    match strsep mem name [';'] with
    | (mem, _, some next) => lastToken n mem next
    | (mem, token, none) => (mem, token)

def cleanName (mem : Mem) (name : ℕ) : Mem × ℕ :=
  let (mem, token) := lastToken (strlen mem name + 1) mem name
  dsiStrim mem token

def lastSemicolon (mem : Mem) (buf : ℕ) : ℕ → Option ℕ
  | 0 => none
  | n + 1 => if peek mem (buf + n) = ';' then some (buf + n) else lastSemicolon mem buf n

/-- The memory, the new `*buf` and `has_child`.  The data of the node starts at the old `*buf`. -/
def getBlob (mem : Mem) (buf : ℕ) : Mem × ℕ × Bool :=
  match strpbrk mem buf ['{', '}'] with
  | none => (mem, buf, false)
  | some data =>
    if peek mem data = '{' then
      match lastSemicolon mem buf (data - buf) with
      -- the character behind the semicolon is overwritten
      | some semicolon => (poke mem (semicolon + 1) NUL, semicolon + 2, true)
      | none => (mem, buf, true)
    else (poke mem data NUL, data + 1, false)

mutual

/-- The memory, the new `*buf` and the node, if there is one; `alloc` says whether the allocation
    of the node whose body starts at a pointer succeeds.  `none` means that the fuel was used up. -/
def findNodes (alloc : ℕ → Bool) : ℕ → Mem → ℕ → Option (Mem × ℕ × Option Node)
  | 0, _, _ => none
  | fuel + 1, mem, buf =>
    match strpbrk mem buf ['{', '}'] with
    | none => some (mem, buf, none)
    | some data =>
      if peek mem data = '}' then some (mem, data + 1, none)
      else
        match strsep mem buf ['{'] with
        | (mem, name, some body) =>
          if alloc body then
            let (mem, name) := cleanName mem name
            let (mem, buf, hasChild) := getBlob mem body
            if hasChild then
              (findChildren alloc fuel mem buf []).map fun (mem, buf, children) =>
                (mem, buf, some (.mk name body 0 children))
            else some (mem, buf, some (.mk name body 0 []))
          else some (mem, body, none)
        -- not reached: `data` is an opening brace
        | (mem, _, none) => some (mem, buf, none)

def findChildren (alloc : ℕ → Bool) : ℕ → Mem → ℕ → List Node → Option (Mem × ℕ × List Node)
  | 0, _, _, _ => none
  | fuel + 1, mem, buf, children =>
    match findNodes alloc fuel mem buf with
    | none => none
    | some (mem, buf, none) => some (mem, buf, children)
    | some (mem, buf, some child) =>
      findChildren alloc fuel mem buf
        (if children.length < DSI_PARSER_MAX_NODES then children ++ [child] else children)

end

mutual

def countProperties (mem : Mem) : Node → Node
  | .mk name data propCount children =>
    if strlen mem data = 0 then .mk name data propCount children
    else .mk name data ((cstr mem data).count ';') (countAll mem children)

def countAll (mem : Mem) : List Node → List Node
  | [] => []
  | node :: rest => countProperties mem node :: countAll mem rest

end

def tokens : List Char → List (List Char)
  | [] => [[]]
  | c :: rest =>
    if c = ';' then [] :: tokens rest
    else
      match tokens rest with
      | [] => [[c]]
      | token :: more => (c :: token) :: more

inductive Tree
  | node (name : List Char) (properties : List (List Char)) (children : List Tree)

mutual

/-- The name of a node, the `prop_count` tokens that `dsi_parser_get_properties` takes from its
    data, and its children. -/
def Node.tree (mem : Mem) : Node → Tree
  | .mk name data propCount children =>
    .node (cstr mem name) ((tokens (cstr mem data)).take propCount) (Node.trees mem children)

def Node.trees (mem : Mem) : List Node → List Tree
  | [] => []
  | node :: rest => node.tree mem :: Node.trees mem rest

end

end DisplayDrivers.DsiParser
