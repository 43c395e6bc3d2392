import DisplayDrivers.DsiParser.Nodes
import DisplayDrivers.Lib.CheckedText
import Mathlib.Data.BitVec

/-! # The properties of the nodes (`msm/dsi/dsi_parser.c`)

`dsi_parser_parse_prop` cuts the text of one property into items in place: a string, an array of
strings, tuples between angle brackets or bytes between square brackets.
-/

namespace DisplayDrivers.DsiParser

open DisplayDrivers.Lib.CString (Mem NUL)
open DisplayDrivers.Lib.CheckedText

/-! ## Integers -/

def EINVAL : Int := 22
def ERANGE : Int := 34

def digit (base : ℕ) (c : Char) : Option ℕ :=
  let value :=
    if '0' ≤ c ∧ c ≤ '9' then some (c.toNat - '0'.toNat)
    else if 'a' ≤ c ∧ c ≤ 'f' then some (c.toNat - 'a'.toNat + 10)
    else if 'A' ≤ c ∧ c ≤ 'F' then some (c.toNat - 'A'.toNat + 10)
    else none
  value.filter (· < base)

def kstrtoull (s : List Char) (base : ℕ) : Except Int ℕ :=
  let s :=
    match s with
    | '0' :: 'x' :: rest => if base = 16 then rest else s
    | '0' :: 'X' :: rest => if base = 16 then rest else s
    | _ => s
  let digits := s.takeWhile fun c => (digit base c).isSome
  let value := digits.foldl (fun value c => value * base + (digit base c).getD 0) 0
  if value ≥ 2 ^ 64 then .error (-ERANGE)
  else if digits = [] then .error (-EINVAL)
  else if s.drop digits.length = [] ∨ s.drop digits.length = ['\n'] then .ok value
  else .error (-EINVAL)

def kstrtoint (s : List Char) (base : ℕ) : Except Int Int := do
  let value ←
    match s with
    | '-' :: rest => (fun n : ℕ => -(n : Int)) <$> kstrtoull rest base
    | '+' :: rest => (fun n : ℕ => (n : Int)) <$> kstrtoull rest base
    | _ => (fun n : ℕ => (n : Int)) <$> kstrtoull s base
  if -2 ^ 31 ≤ value ∧ value < 2 ^ 31 then .ok value else .error (-ERANGE)

/-- An item with an `x` is what follows the first of them in base 16, any other is decimal. -/
def convert (item : List Char) : Except Int Int :=
  match item.dropWhile (· ≠ 'x') with
  | [] => kstrtoint item 10
  | _ :: rest => kstrtoint rest 16

def SZ_128 : ℕ := 128

/-- What `strlcpy` leaves of an item in a buffer of `SZ_128` characters. -/
def copied (item : List Char) : List Char := item.take (SZ_128 - 1)

/-! ## Properties -/

inductive PropType
  | str
  | strArray
  | intSet
  | intSetArray
  | intArray

/-- `prop->value`: a string of the text, the bytes of the integers, or the `"1"` of a property that
    has no value. -/
inductive Value
  | null
  | text (p : ℕ)
  | ints (bytes : List (BitVec 8))
  | one

/-- `struct dsi_parser_prop`, with the bytes that `items` was allocated with; `len` is the number of
    the items. -/
structure DsiParserProp where
  name : Option ℕ
  raw : Option (List Char)
  value : Value
  items : List (Option ℕ)
  itemsSize : Option ℕ
  type : PropType

def DsiParserProp.zero : DsiParserProp := ⟨none, none, .null, [], none, .str⟩

def DsiParserProp.push (prop : DsiParserProp) (item : Option ℕ) : DsiParserProp :=
  { prop with items := prop.items ++ [item] }

/-- Which allocations succeed: that of the copy of the text, those that are known by the text which
    they are made for, and the last three by the name of the property. -/
structure Allocs where
  buf : Bool
  node : ℕ → Bool
  props : ℕ → Bool
  raw : ℕ → Bool
  strings : ℕ → Bool
  items : ℕ → Bool
  value : ℕ → Bool

def allAllocated : Allocs :=
  { buf := true, node := fun _ => true, props := fun _ => true, raw := fun _ => true,
    strings := fun _ => true, items := fun _ => true, value := fun _ => true }

def count (buf : ℕ) (item : Char) : Text ℕ := do
  let s ← string buf
  return s.count item

def starless (mem : Mem) (buf : ℕ) : ℕ → ℕ
  | 0 => 0
  | n + 1 => if Lib.CString.peek mem (buf + n) = '*' then starless mem buf n else n + 1

def clearTail (buf : ℕ) : Text ℕ := do
  let size ← strlen buf
  if size = 0 then return buf
  else
    let mem ← get
    store (buf + starless mem buf size) NUL
    return buf

/-- `dsi_parser_strim` -/
def trim (buf : ℕ) : Text ℕ := do
  strreplace buf '*' ' '
  strim buf

def getData (start close : Char) (str : ℕ) : Text (Option ℕ) := do
  let cut ← strsep str [start]
  match cut.2 with
  | none => return none
  | some str =>
    let cut ← strsep str [close]
    let data ← clearTail cut.1
    return some data

/-- The loop of `dsi_parser_get_tuplets_data`, at most `n` times. -/
def tupletsDataLoop : ℕ → DsiParserProp → ℕ → (middleOfTx : Bool) → Text (DsiParserProp × Bool)
  | 0, prop, _, middleOfTx => return (prop, middleOfTx)
  | n + 1, prop, str, middleOfTx => do
    let cut ← strsep str [' ']
    match cut.2 with
    | none =>
      if middleOfTx then
        let out ← trim cut.1
        return (prop.push (some out), true)
      else return (prop, false)
    | some str =>
      let out ← trim cut.1
      tupletsDataLoop n (prop.push (some out)) str true

/-- `dsi_parser_get_tuplets_data`; a text has at most one token more than characters. -/
def getTupletsData (prop : DsiParserProp) (str : Option ℕ) : Text (DsiParserProp × Bool) :=
  match str with
  | none => return (prop, false)
  | some str => do
    let mem ← get
    tupletsDataLoop (mem.length + 1) prop str false

/-- One turn of the loop of `dsi_parser_get_strings`. -/
def stringsTurn (prop : DsiParserProp) (out : ℕ) (more middleOfTx : Bool) :
    Text (DsiParserProp × Bool) := do
  if (more || middleOfTx) && prop.items.length < prop.itemsSize.getD 0 then
    let item ← getData '"' '"' out
    return (prop.push item, true)
  else return (prop, middleOfTx)

def stringsLoop : ℕ → DsiParserProp → ℕ → (middleOfTx : Bool) → Text (DsiParserProp × Bool)
  | 0, prop, _, middleOfTx => return (prop, middleOfTx)
  | n + 1, prop, str, middleOfTx => do
    let cut ← strsep str [',']
    let turn ← stringsTurn prop cut.1 cut.2.isSome middleOfTx
    match cut.2 with
    | none => return turn
    | some str => stringsLoop n turn.1 str turn.2

def getStrings (allocated : Bool) (prop : DsiParserProp) (str : ℕ) :
    Text (DsiParserProp × Bool) := do
  let quotes ← count str '"'
  if quotes = 0 then return (prop, false)
  else
    let commas ← count str ','
    if commas = 0 then
      let value ← getData '"' '"' str
      return ({ prop with value := value.elim .null .text, type := .str }, value.isSome)
    else if allocated then
      let mem ← get
      -- one item more than commas, and as many bytes
      stringsLoop (mem.length + 1)
        { prop with itemsSize := some (commas + 1), type := .strArray } str false
    else return (prop, false)

/-- One turn of the loop of `dsi_parser_get_tuplets`. -/
def tupletsTurn (prop : DsiParserProp) (out : ℕ) (more middleOfTx : Bool) :
    Text (DsiParserProp × Bool) := do
  if more || middleOfTx then
    let data ← getData '<' '>' out
    let tuplets ← getTupletsData prop data
    return (tuplets.1, true)
  else return (prop, middleOfTx)

def tupletsLoop : ℕ → DsiParserProp → ℕ → (middleOfTx : Bool) → Text (DsiParserProp × Bool)
  | 0, prop, _, middleOfTx => return (prop, middleOfTx)
  | n + 1, prop, str, middleOfTx => do
    let cut ← strsep str [',']
    let turn ← tupletsTurn prop cut.1 cut.2.isSome middleOfTx
    match cut.2 with
    | none => return turn
    | some str => tupletsLoop n turn.1 str turn.2

def getTuplets (prop : DsiParserProp) (str : ℕ) : Text (DsiParserProp × Bool) := do
  let mem ← get
  tupletsLoop (mem.length + 1) prop str false

/-- The bytes of `dsi_parser_get_int_value`; an item that cannot be read leaves its byte zero. -/
def intBytes (forcedBase : ℕ) : List (Option ℕ) → Text (List (BitVec 8))
  | [] => return []
  | none :: _ => throw .outside
  | some p :: items => do
    let item ← string p
    let val := if forcedBase ≠ 0 then kstrtoint (copied item) forcedBase else convert (copied item)
    let bytes ← intBytes forcedBase items
    return (match val with
      | .ok val => BitVec.ofInt 8 val
      | .error _ => 0) :: bytes

/-- The end of each branch with integers: `prop->value`, the type and `dsi_parser_get_int_value`. -/
def getIntValue (allocated : Bool) (prop : DsiParserProp) (type : PropType) (forcedBase : ℕ) :
    Text DsiParserProp := do
  if allocated then
    let bytes ← intBytes forcedBase prop.items
    return { prop with value := .ints bytes, type }
  else return { prop with value := .null }

def wordsLoop : ℕ → DsiParserProp → ℕ → Text DsiParserProp
  | 0, prop, _ => return prop
  | n + 1, prop, out5 => do
    let size ← strlen out5
    if size = 0 then return prop
    else
      let cut ← strsep out5 [' ']
      let out6 ← trim cut.1
      let size ← strlen out6
      let prop := if size = 0 then prop else prop.push (some out6)
      match cut.2 with
      | none => return prop
      | some out5 => wordsLoop n prop out5

/-- `dsi_parser_parse_prop` behind the allocation of `prop->items`. -/
def parseItems (allocated : Bool) (prop : DsiParserProp) (buf : ℕ) :
    Text (DsiParserProp × Bool) := do
  let tuplets ← getTuplets prop buf
  if tuplets.2 then
    let prop ← getIntValue allocated tuplets.1 .intSetArray 0
    return (prop, true)
  else
    let value ← getData '<' '>' buf
    match value with
    | some value =>
      let set ← getTupletsData prop (some value)
      if set.2 then
        let prop ← getIntValue allocated set.1 .intSet 0
        return (prop, true)
      else return ({ set.1.push (some value) with value := .text value }, true)
    | none =>
      let value ← getData '[' ']' buf
      match value with
      | some value =>
        let mem ← get
        let words ← wordsLoop (mem.length + 1) prop value
        let prop ← getIntValue allocated words .intArray 16
        return (prop, true)
      | none => return ({ prop with value := .null }, false)

/-- `dsi_parser_parse_prop`, and whether it has found a property. -/
def parseProp (allocs : Allocs) (buf : ℕ) : Text (DsiParserProp × Bool) := do
  let cut ← strsep buf ['=']
  match cut.2 with
  | none => return (.zero, false)
  | some buf =>
    if allocs.raw buf then
      let raw ← string buf
      let name ← trim cut.1
      let prop := { DsiParserProp.zero with name := some name, raw := some raw }
      let strings ← getStrings (allocs.strings name) prop buf
      if strings.2 then return (strings.1, true)
      else if allocs.items name then
        let size ← strlen buf
        parseItems (allocs.value name) { strings.1 with itemsSize := some (2 * size) } buf
      else return (strings.1, true)
    else return (.zero, false)

/-! ## The tree -/

/-- `dsi_parser_clean_name` -/
def lastTokenLoop : ℕ → ℕ → Text ℕ
  | 0, name => return name
  | n + 1, name => do
    let cut ← strsep name [';']
    match cut.2 with
    | none => return cut.1
    | some next => lastTokenLoop n next

def cleanNameText (name : ℕ) : Text ℕ := do
  let size ← strlen name
  let token ← lastTokenLoop (size + 1) name
  trim token

/-- `dsi_parser_get_blob`, with the new `*buf` and `has_child`. -/
def getBlobText (buf : ℕ) : Text (ℕ × Bool) := do
  let found ← strpbrk buf ['{', '}']
  match found with
  | none => return (buf, false)
  | some data =>
    let c ← load data
    if c = '{' then
      let mem ← get
      match lastSemicolon mem buf (data - buf) with
      | some semicolon =>
        store (semicolon + 1) NUL
        return (semicolon + 2, true)
      | none => return (buf, true)
    else
      store data NUL
      return (data + 1, false)

mutual

/-- `dsi_parser_find_nodes`, with the new `*buf`. -/
def findNodesText (alloc : ℕ → Bool) : ℕ → ℕ → Text (ℕ × Option Node)
  | 0, _ => throw .fuel
  | fuel + 1, buf => do
    let found ← strpbrk buf ['{', '}']
    match found with
    | none => return (buf, none)
    | some data =>
      let c ← load data
      if c = '}' then return (data + 1, none)
      else
        let cut ← strsep buf ['{']
        match cut.2 with
        | none => return (buf, none)
        | some body =>
          if alloc body then
            let name ← cleanNameText cut.1
            let blob ← getBlobText body
            if blob.2 then
              let inner ← findChildrenText alloc fuel blob.1 []
              return (inner.1, some (.mk name body 0 inner.2))
            else return (blob.1, some (.mk name body 0 []))
          else return (body, none)

def findChildrenText (alloc : ℕ → Bool) : ℕ → ℕ → List Node → Text (ℕ × List Node)
  | 0, _, _ => throw .fuel
  | fuel + 1, buf, children => do
    let found ← findNodesText alloc fuel buf
    match found.2 with
    | none => return (found.1, children)
    | some child =>
      findChildrenText alloc fuel found.1
        (if children.length < DSI_PARSER_MAX_NODES then children ++ [child] else children)

end

mutual

/-- `dsi_parser_count_properties` -/
def countPropertiesText : Node → Text Node
  | .mk name data propCount children => do
    let size ← strlen data
    if size = 0 then return .mk name data propCount children
    else
      let propCount ← count data ';'
      let children ← countAllText children
      return .mk name data propCount children

def countAllText : List Node → Text (List Node)
  | [] => return []
  | node :: rest => do
    let node ← countPropertiesText node
    let rest ← countAllText rest
    return node :: rest

end

def nameOnly (prop : DsiParserProp) (out : ℕ) : Text DsiParserProp := do
  let cut ← strsep out ['}']
  let out1 ← trim cut.1
  let size ← strlen out1
  if cut.2 = none ∧ size ≠ 0 then return { prop with name := some out1, value := .one }
  else return prop

/-- The loop of `dsi_parser_get_properties`; behind the last token nothing more is parsed. -/
def propertiesLoop (allocs : Allocs) : ℕ → ℕ → Text (List DsiParserProp)
  | 0, _ => return []
  | n + 1, buf => do
    let cut ← strsep buf [';']
    let parsed ← parseProp allocs cut.1
    let prop ← (if parsed.2 then pure parsed.1 else nameOnly parsed.1 cut.1)
    match cut.2 with
    | none => return prop :: List.replicate n .zero
    | some buf =>
      let rest ← propertiesLoop allocs n buf
      return prop :: rest

inductive PropNode
  | mk (name data : ℕ) (prop : List DsiParserProp) (children : List PropNode)

mutual

def Node.bare : Node → PropNode
  | .mk name data _ children => .mk name data [] (Node.bareAll children)

def Node.bareAll : List Node → List PropNode
  | [] => []
  | node :: rest => node.bare :: Node.bareAll rest

end

mutual

def PropNode.properties : PropNode → List DsiParserProp
  | .mk _ _ prop children => prop ++ PropNode.allProperties children

def PropNode.allProperties : List PropNode → List DsiParserProp
  | [] => []
  | node :: rest => node.properties ++ PropNode.allProperties rest

end

mutual

def getProperties (allocs : Allocs) : Node → Text PropNode
  | .mk name data propCount children => do
    if propCount = 0 then
      let inner ← getAllProperties allocs children
      return .mk name data [] inner
    else if allocs.props data then
      let prop ← propertiesLoop allocs propCount data
      let inner ← getAllProperties allocs children
      return .mk name data prop inner
    else return (Node.mk name data propCount children).bare

def getAllProperties (allocs : Allocs) : List Node → Text (List PropNode)
  | [] => return []
  | node :: rest => do
    let node ← getProperties allocs node
    let rest ← getAllProperties allocs rest
    return node :: rest

end

/-- `dsi_parser_get_head_node`, for a parser that is there and a copy of the text.  Each call of
    `dsi_parser_find_nodes` that goes on has passed a brace. -/
def getHeadNode (allocs : Allocs) : Text (Option PropNode) := do
  let mem ← get
  if mem.length = 0 ∨ allocs.buf = false then return none
  else
    strreplace 0 '\n' ' '
    strreplace 0 '\t' '*'
    let found ← findNodesText allocs.node (2 * mem.length + 1) 0
    match found.2 with
    | none => return none
    | some head =>
      let head ← countPropertiesText head
      let node ← getProperties allocs head
      return some node

end DisplayDrivers.DsiParser
