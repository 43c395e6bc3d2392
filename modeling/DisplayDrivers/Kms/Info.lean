import DisplayDrivers.Lib.Buffer
import DisplayDrivers.Lib.Run
import Mathlib.Data.BitVec

/-! # Capability blobs (`sde_kms_info_*` of `msm/sde/sde_kms_utils.c`)

A blob is a buffer of `key=value` lines with two cursors: up to `len` it is published, up to
`staged_len` a line is under construction. Each function leaves its cursor alone when `snprintf` has
had to cut its text, and the two do not know of each other: where the key of a line is cut,
`staged_len` is the end of an older line, and where a value is cut, the rest of the line goes on
without it.
-/

namespace DisplayDrivers.Kms.Info

open DisplayDrivers.Lib
open DisplayDrivers.Lib.Run

abbrev U32 := BitVec 32
abbrev U64 := BitVec 64

def SDE_KMS_INFO_MAX_SIZE : ℕ := 12288

/-! ## The code -/

abbrev Data := Buffer Char SDE_KMS_INFO_MAX_SIZE

/-- `struct sde_kms_info` -/
structure KmsInfo where
  data : Data
  len : ℕ
  stagedLen : ℕ
  start : Bool

/-- `snprintf` at an offset of the buffer, with all that is left of it as the size, a number of 32
    bits: what does not fit is cut, in front of a final zero.  The text is not longer than an `int`
    can say. `none` is a write behind the buffer. -/
def snprintf (data : Data) (offset : ℕ) (text : List Char) : Option Data :=
  let size := (2 ^ 32 + SDE_KMS_INFO_MAX_SIZE - offset) % 2 ^ 32
  if size = 0 then some data
  else data.copyAt offset (text.take (size - 1) ++ [Char.ofNat 0])

def reset (info : KmsInfo) : KmsInfo := { info with len := 0, stagedLen := 0 }

def addLine (info : KmsInfo) (text : List Char) : Option KmsInfo :=
  (snprintf info.data info.len text).map fun data =>
    if info.len + text.length < SDE_KMS_INFO_MAX_SIZE then
      { info with data, len := info.len + text.length }
    else { info with data }

def keyintText (key : List Char) (value : U64) : List Char :=
  key ++ ['='] ++ (toString value.toInt).toList ++ ['\n']

def keystrText (key value : List Char) : List Char := key ++ ['='] ++ value ++ ['\n']

def addKeyint (info : KmsInfo) (key : List Char) (value : U64) : Option KmsInfo :=
  addLine info (keyintText key value)

def addKeystr (info : KmsInfo) (key value : List Char) : Option KmsInfo :=
  addLine info (keystrText key value)

def infoStart (info : KmsInfo) (key : List Char) : Option KmsInfo :=
  let text := key ++ ['=']
  (snprintf info.data info.len text).map fun data =>
    if info.len + text.length < SDE_KMS_INFO_MAX_SIZE then
      { info with data, start := true, stagedLen := info.len + text.length }
    else { info with data, start := true }

def append (info : KmsInfo) (str : List Char) : Option KmsInfo :=
  (snprintf info.data info.stagedLen str).map fun data =>
    if info.stagedLen + str.length < SDE_KMS_INFO_MAX_SIZE then
      { info with data, stagedLen := info.stagedLen + str.length, start := false }
    else { info with data }

def byteChar (word : U32) : Char := Char.ofNat (word &&& 0xFF).toNat

def hexUpper (value : U64) : List Char := (Nat.toDigits 16 value.toNat).map Char.toUpper

def formatText (start : Bool) (pixelFormat : U32) (modifier : U64) : List Char :=
  let separator := if start then [] else [' ']
  let fourcc := [byteChar pixelFormat, byteChar (pixelFormat >>> 8), byteChar (pixelFormat >>> 16),
    byteChar (pixelFormat >>> 24)]
  if modifier ≠ 0 then
    separator ++ fourcc ++ ['/'] ++ hexUpper ((modifier >>> 56) &&& 0xFF) ++ ['/'] ++
      hexUpper (modifier &&& 0xFFFFFFFFFFFFFF)
  else separator ++ fourcc

def appendFormat (info : KmsInfo) (pixelFormat : U32) (modifier : U64) : Option KmsInfo :=
  append info (formatText info.start pixelFormat modifier)

def infoStop (info : KmsInfo) : Option KmsInfo :=
  (snprintf info.data info.stagedLen ['\n']).map fun data =>
    if info.stagedLen + 1 < SDE_KMS_INFO_MAX_SIZE then { info with data, len := info.stagedLen + 1 }
    else { info with data }

inductive Call where
  | reset
  | addKeyint (key : List Char) (value : U64)
  | addKeystr (key value : List Char)
  | start (key : List Char)
  | append (str : List Char)
  | appendFormat (pixelFormat : U32) (modifier : U64)
  | stop

def KmsInfo.step (info : KmsInfo) : Call → Option KmsInfo
  | .reset => some (Info.reset info)
  | .addKeyint key value => Info.addKeyint info key value
  | .addKeystr key value => Info.addKeystr info key value
  | .start key => infoStart info key
  | .append str => Info.append info str
  | .appendFormat pixelFormat modifier => Info.appendFormat info pixelFormat modifier
  | .stop => infoStop info

/-! ## The lines -/

structure Line where
  text : List Char
  first : Bool

structure Ledger where
  lines : List (List Char)
  line : Option Line

def Ledger.text (ledger : Ledger) : List Char := ledger.lines.flatten

def Ledger.Fits (ledger : Ledger) (text : List Char) : Prop :=
  ledger.text.length + text.length < SDE_KMS_INFO_MAX_SIZE

instance (ledger : Ledger) (text : List Char) : Decidable (ledger.Fits text) := Nat.decLt _ _

def Ledger.add (ledger : Ledger) (text : List Char) : Ledger :=
  if ledger.Fits text then { lines := ledger.lines ++ [text], line := none }
    else { ledger with line := none }

def Ledger.extend (ledger : Ledger) (text : Bool → List Char) : Ledger :=
  { ledger with
    line := ledger.line.map fun line => { text := line.text ++ text line.first, first := false } }

def Ledger.step (ledger : Ledger) : Call → Ledger
  | .reset => { lines := [], line := none }
  | .addKeyint key value => ledger.add (keyintText key value)
  | .addKeystr key value => ledger.add (keystrText key value)
  | .start key => { ledger with line := some { text := key ++ ['='], first := true } }
  | .append str => ledger.extend fun _ => str
  | .appendFormat pixelFormat modifier =>
    ledger.extend fun first => formatText first pixelFormat modifier
  | .stop => ledger.line.elim ledger fun line => ledger.add (line.text ++ ['\n'])

structure Joint where
  info : Option KmsInfo
  ledger : Ledger

def Joint.step (joint : Joint) (call : Call) : Joint :=
  ⟨joint.info.bind (·.step call), joint.ledger.step call⟩

def KmsInfo.published (info : KmsInfo) : List Char := info.data.toList.take info.len

def Joint.Exact (joint : Joint) : Prop :=
  ∃ info, joint.info = some info ∧ info.len < SDE_KMS_INFO_MAX_SIZE ∧ info.published =
    joint.ledger.text

def Joint.Extends (joint : Joint) (call : Call) : Prop :=
  call ≠ .reset → ∃ info info' added, joint.info = some info ∧ (joint.step call).info = some info' ∧
    info.len ≤ info'.len ∧ (joint.step call).ledger.lines = joint.ledger.lines ++ added ∧
    info'.published = info.published ++ added.flatten

def Ledger.Closed (ledger : Ledger) : Call → Prop
  | .reset => True
  | .addKeyint .. | .addKeystr .. | .start _ => ledger.line = none
  | .append _ | .appendFormat .. | .stop => ledger.line.isSome

/-- The calls that do not come to a defect: a value is not written over what is published, and the
    end of a line that does not fit is cut as well, or is where the last line ends. -/
def KmsInfo.Safe (info : KmsInfo) (ledger : Ledger) : Call → Prop
  | .append _ | .appendFormat .. => info.len ≤ info.stagedLen
  | .stop => ledger.line.elim True fun line =>
      ledger.Fits (line.text ++ ['\n']) ∨ SDE_KMS_INFO_MAX_SIZE ≤ info.stagedLen + 1 ∨
        info.stagedLen + 1 = info.len
  | _ => True

def Joint.Safe (joint : Joint) (call : Call) : Prop :=
  ∀ info, joint.info = some info → info.Safe joint.ledger call

/-! ## What is written -/

theorem snprintf_spec (data : Data) {offset : ℕ} (below : offset < SDE_KMS_INFO_MAX_SIZE)
    (text : List Char) :
    ∃ data', snprintf data offset text = some data' ∧
      (∀ before ≤ offset, data'.toList.take before = data.toList.take before) ∧
      (offset + text.length < SDE_KMS_INFO_MAX_SIZE →
        data'.toList.take (offset + text.length) = data.toList.take offset ++ text) := by
  have size : (2 ^ 32 + SDE_KMS_INFO_MAX_SIZE - offset) % 2 ^ 32 =
    SDE_KMS_INFO_MAX_SIZE - offset := by
    unfold SDE_KMS_INFO_MAX_SIZE at below ⊢
    omega
  have cut : (text.take (SDE_KMS_INFO_MAX_SIZE - offset - 1) ++ [Char.ofNat 0]).length ≤
      SDE_KMS_INFO_MAX_SIZE - offset := by
    rw [List.length_append, List.length_take, List.length_singleton]
    omega
  obtain ⟨data', written⟩ := Buffer.exists_copyAt data (by omega :
    offset + (text.take (SDE_KMS_INFO_MAX_SIZE - offset - 1) ++ [Char.ofNat 0]).length ≤
      SDE_KMS_INFO_MAX_SIZE)
  have read := Buffer.take_of_copyAt written
  have front : (data.toList.take offset).length = offset := by
    rw [List.length_take, data.length_toList]
    omega
  refine ⟨data', by rw [snprintf, size, if_neg (by omega),
    written], fun before low => ?_, fun fits => ?_⟩
  · have shorter := congrArg (List.take before) read
    rw [List.take_take, Nat.min_eq_left (by omega), List.take_append_of_le_length (by omega),
      List.take_take,
      Nat.min_eq_left low] at shorter
    exact shorter
  · have whole : text.take (SDE_KMS_INFO_MAX_SIZE - offset - 1) = text :=
      List.take_of_length_le (by omega)
    rw [whole] at read
    have shorter := congrArg (List.take (offset + text.length)) read
    rw [List.take_take, List.length_append, Nat.min_eq_left (by omega), ← List.append_assoc,
      List.take_append_of_le_length (by rw [List.length_append, front])] at shorter
    exact shorter.trans (List.take_of_length_le (by rw [List.length_append, front]))

/-! ## The calls -/

def Staged (info : KmsInfo) (ledger : Ledger) (line : Line) : Prop :=
  (info.stagedLen = info.len + line.text.length ∧ info.start = line.first ∧
    info.data.toList.take info.stagedLen = ledger.text ++ line.text) ∨
  SDE_KMS_INFO_MAX_SIZE ≤ info.len + line.text.length + 1

structure Follows (info : KmsInfo) (ledger : Ledger) : Prop where
  len : info.len < SDE_KMS_INFO_MAX_SIZE
  staged : info.stagedLen < SDE_KMS_INFO_MAX_SIZE
  length : info.len = ledger.text.length
  published : info.published = ledger.text
  ends : ledger.lines ≠ [] → ∃ front, ledger.text = front ++ ['\n']
  line : ∀ line, ledger.line = some line → Staged info ledger line

section Calls
variable {info : KmsInfo} {ledger : Ledger}

theorem text_append (lines : List (List Char)) (added : List Char) (line : Option Line) :
    (⟨lines ++ [added], line⟩ : Ledger).text = lines.flatten ++ added := by
  simp [Ledger.text]

theorem add_lines (ledger : Ledger) (text : List Char) :
    ∃ added, (ledger.add text).lines = ledger.lines ++ added := by
  unfold Ledger.add
  split
  · exact ⟨[text], rfl⟩
  · exact ⟨[], (List.append_nil _).symm⟩

section

variable (follows : Follows info ledger)

include follows

theorem addLine_follows (text : List Char) (ends : ∃ front, text = front ++ ['\n']) :
    ∃ info', addLine info text = some info' ∧ Follows info' (ledger.add text) := by
  obtain ⟨data, written, before, behind⟩ := snprintf_spec info.data follows.len text
  have kept := before info.len (Nat.le_refl _)
  have fits : ledger.Fits text ↔ info.len + text.length < SDE_KMS_INFO_MAX_SIZE := by
    rw [Ledger.Fits, follows.length]
  rw [Ledger.add]
  by_cases room : info.len + text.length < SDE_KMS_INFO_MAX_SIZE
  · have stepped : addLine info text = some { info with data, len := info.len + text.length } := by
      rw [addLine, written, Option.map_some, if_pos room]
    rw [if_pos (fits.mpr room)]
    refine ⟨_, stepped, room, follows.staged, ?_, ?_, fun _ => ?_, fun line none => ?_⟩
    · rw [text_append, List.length_append, follows.length, Ledger.text]
    · have read := behind room
      rw [← KmsInfo.published, follows.published] at read
      rw [KmsInfo.published, text_append]
      exact read
    · obtain ⟨front, rfl⟩ := ends
      exact ⟨ledger.text ++ front, by rw [text_append, List.append_assoc, Ledger.text]⟩
    · cases none
  · have stepped : addLine info text = some { info with data } := by
      rw [addLine, written, Option.map_some, if_neg room]
    rw [if_neg (fits.not.mpr room)]
    refine ⟨_, stepped, follows.len, follows.staged, follows.length, ?_, follows.ends,
      fun line none => ?_⟩
    · exact kept.trans follows.published
    · cases none

theorem infoStart_follows (key : List Char) :
    ∃ info', infoStart info key = some info' ∧ Follows info' (ledger.step (.start key)) := by
  obtain ⟨data, written, before, behind⟩ := snprintf_spec info.data follows.len (key ++ ['='])
  have kept := before info.len (Nat.le_refl _)
  have published : data.toList.take info.len = ledger.text := kept.trans follows.published
  by_cases room : info.len + (key ++ ['=']).length < SDE_KMS_INFO_MAX_SIZE
  · have stepped : infoStart info key = some { info with
        data, start := true, stagedLen := info.len + (key ++ ['=']).length } := by
      rw [infoStart, written, Option.map_some, if_pos room]
    refine ⟨_, stepped, follows.len, room, follows.length, published, follows.ends,
      fun line started => .inl ⟨?_, ?_, ?_⟩⟩
    all_goals cases started
    · rfl
    · rfl
    · have read := behind room
      rw [← KmsInfo.published, follows.published] at read
      exact read
  · have stepped : infoStart info key = some { info with data, start := true } := by
      rw [infoStart, written, Option.map_some, if_neg room]
    refine ⟨_, stepped, follows.len, follows.staged, follows.length, published, follows.ends,
      fun line started => .inr ?_⟩
    cases started
    exact Nat.le_succ_of_le (Nat.le_of_not_lt room)

theorem append_follows {line : Line} (started : ledger.line = some line)
    (order : info.len ≤ info.stagedLen) (text : Bool → List Char) :
    ∃ info', append info (text info.start) = some info' ∧ Follows info' (ledger.extend text) := by
  obtain ⟨data, written, before, behind⟩ := snprintf_spec info.data follows.staged (text info.start)
  have published : data.toList.take info.len = ledger.text :=
    (before info.len order).trans follows.published
  have extended : (ledger.extend text).line = some ⟨line.text ++ text line.first, false⟩ := by
    rw [Ledger.extend, started]
    rfl
  have state := follows.line line started
  -- a line that does not fit gets no shorter
  have lost : ∀ {len : ℕ}, SDE_KMS_INFO_MAX_SIZE ≤ len + line.text.length + 1 →
      SDE_KMS_INFO_MAX_SIZE ≤ len + (line.text ++ text line.first).length + 1 := by
    intro len beyond
    rw [List.length_append]
    omega
  by_cases room : info.stagedLen + (text info.start).length < SDE_KMS_INFO_MAX_SIZE
  · have stepped : append info (text info.start) = some { info with
        data, stagedLen := info.stagedLen + (text info.start).length, start := false } := by
      rw [append, written, Option.map_some, if_pos room]
    refine ⟨_, stepped, follows.len, room, follows.length, published, follows.ends,
      fun other same => ?_⟩
    rw [extended] at same
    cases same
    cases state with
    | inl staged =>
      obtain ⟨place, first, read⟩ := staged
      left
      refine ⟨?_, rfl, ?_⟩
      · rw [List.length_append, ← first, ← Nat.add_assoc, ← place]
      · have now := behind room
        rw [read] at now
        rw [← first, ← List.append_assoc]
        exact now
    | inr beyond => exact .inr (lost beyond)
  · have stepped : append info (text info.start) = some { info with data } := by
      rw [append, written, Option.map_some, if_neg room]
    refine ⟨_, stepped, follows.len, follows.staged, follows.length, published, follows.ends,
      fun other same => ?_⟩
    rw [extended] at same
    cases same
    right
    cases state with
    | inl staged =>
      obtain ⟨place, first, -⟩ := staged
      rw [first, place] at room
      rw [List.length_append]
      change _ ≤ info.len + _ + 1
      omega
    | inr beyond => exact lost beyond

theorem infoStop_follows {line : Line} (started : ledger.line = some line)
    (safe : ledger.Fits (line.text ++ ['\n']) ∨ SDE_KMS_INFO_MAX_SIZE ≤ info.stagedLen + 1 ∨
      info.stagedLen + 1 = info.len) :
    ∃ info', infoStop info = some info' ∧ Follows info' (ledger.add (line.text ++ ['\n'])) := by
  obtain ⟨data, written, before, behind⟩ := snprintf_spec info.data follows.staged ['\n']
  have len := follows.len
  have length : (line.text ++ ['\n']).length = line.text.length + 1 := by rw [List.length_append,
    List.length_singleton]
  have fits : ledger.Fits (line.text ++ ['\n']) ↔
    info.len + line.text.length + 1 < SDE_KMS_INFO_MAX_SIZE := by
    rw [Ledger.Fits, follows.length, length, Nat.add_assoc]
  rw [Ledger.add]
  by_cases whole : info.len + line.text.length + 1 < SDE_KMS_INFO_MAX_SIZE
  · obtain ⟨place, -, read⟩ | beyond := follows.line line started
    · have room : info.stagedLen + 1 < SDE_KMS_INFO_MAX_SIZE := by omega
      have stepped : infoStop info = some { info with data, len := info.stagedLen + 1 } := by
        rw [infoStop, written, Option.map_some, if_pos room]
      rw [if_pos (fits.mpr whole)]
      refine ⟨_, stepped, room, follows.staged, ?_, ?_, fun _ => ?_, fun other none => ?_⟩
      · rw [text_append, List.length_append, length, ← Ledger.text, ← follows.length]
        change info.stagedLen + 1 = _
        omega
      · have now := behind room
        rw [read, List.append_assoc] at now
        rw [text_append]
        exact now
      · exact ⟨ledger.text ++ line.text, by rw [text_append, List.append_assoc, Ledger.text]⟩
      · cases none
    · omega
  · rw [if_neg (fits.not.mpr whole)]
    obtain fit | full | last := safe
    · exact absurd (fits.mp fit) whole
    · have stepped : infoStop info = some { info with data } := by
        rw [infoStop, written, Option.map_some, if_neg (by omega)]
      have published : data.toList.take info.len = ledger.text :=
        (before info.len (by omega)).trans follows.published
      exact ⟨_, stepped, len, follows.staged, follows.length, published, follows.ends,
        fun other none => by cases none⟩
    · -- the last line ends where the new one would, and its end is written again
      have room : info.stagedLen + 1 < SDE_KMS_INFO_MAX_SIZE := by omega
      have stepped : infoStop info = some { info with data, len := info.stagedLen + 1 } := by
        rw [infoStop, written, Option.map_some, if_pos room]
      have some : ledger.lines ≠ [] := by
        intro none
        have empty := follows.length
        rw [Ledger.text, none] at empty
        change info.len = 0 at empty
        omega
      obtain ⟨front, ends⟩ := follows.ends some
      have frontLength : front.length = info.stagedLen := by
        have both := follows.length
        rw [ends, List.length_append, List.length_singleton] at both
        omega
      have old : info.data.toList.take info.stagedLen = front := by
        have cut := congrArg (List.take info.stagedLen) follows.published
        rw [KmsInfo.published, List.take_take, Nat.min_eq_left (by omega), ends,
          List.take_append_of_le_length (by omega)] at cut
        exact cut.trans (List.take_of_length_le (by omega))
      have now := behind room
      rw [old, ← ends] at now
      refine ⟨_, stepped, room, follows.staged, last.trans follows.length, now, follows.ends,
        fun other none => by cases none⟩

theorem step_follows {call : Call} (closed : ledger.Closed call) (safe : info.Safe ledger call) :
    ∃ info', info.step call = some info' ∧ Follows info' (ledger.step call) := by
  cases call with
  | reset =>
    exact ⟨_, rfl, Nat.zero_lt_succ _, Nat.zero_lt_succ _, rfl, rfl, fun some => absurd rfl some,
      fun line none => by cases none⟩
  | addKeyint key value => exact addLine_follows follows _ ⟨_, rfl⟩
  | addKeystr key value => exact addLine_follows follows _ ⟨_, rfl⟩
  | start key => exact infoStart_follows follows key
  | append str =>
    obtain ⟨line, started⟩ := Option.isSome_iff_exists.mp closed
    exact append_follows follows started safe fun _ => str
  | appendFormat pixelFormat modifier =>
    obtain ⟨line, started⟩ := Option.isSome_iff_exists.mp closed
    exact append_follows follows started safe fun first => formatText first pixelFormat modifier
  | stop =>
    obtain ⟨line, started⟩ := Option.isSome_iff_exists.mp closed
    rw [KmsInfo.Safe, started] at safe
    rw [Ledger.step, started]
    exact infoStop_follows follows started safe

end

theorem step_lines (ledger : Ledger) {call : Call} (other : call ≠ .reset) :
    ∃ added, (ledger.step call).lines = ledger.lines ++ added := by
  have same : ∃ added, ledger.lines = ledger.lines ++ added := ⟨[], (List.append_nil _).symm⟩
  cases call with
  | reset => exact absurd rfl other
  | addKeyint key value => exact add_lines ledger _
  | addKeystr key value => exact add_lines ledger _
  | start key => exact same
  | append str => exact same
  | appendFormat pixelFormat modifier => exact same
  | stop =>
    rw [Ledger.step]
    cases started : ledger.line with
    | none => exact same
    | some line => exact add_lines ledger _

end Calls

/-! ## Runs -/

def Joint.Follows (joint : Joint) : Prop :=
  ∃ info, joint.info = some info ∧ Info.Follows info joint.ledger

theorem joint_follows {joint : Joint} {call : Call} (follows : joint.Follows)
    (closed : joint.ledger.Closed call)
    (safe : joint.Safe call) : (joint.step call).Follows := by
  obtain ⟨info, here, follows⟩ := follows
  obtain ⟨info', stepped, follows'⟩ := step_follows follows closed (safe info here)
  refine ⟨info', ?_, follows'⟩
  rw [Joint.step, here]
  exact stepped

def Joint.init (data : Data) (start : Bool) : Joint :=
  ⟨some (reset ⟨data, 0, 0, start⟩), ⟨[], none⟩⟩

theorem init_follows (data : Data) (start : Bool) : (Joint.init data start).Follows :=
  ⟨_, rfl, Nat.zero_lt_succ _, Nat.zero_lt_succ _, rfl, rfl, fun some => absurd rfl some,
    fun line none => by cases none⟩

/-- In a run whose calls are safe the blob is at all times the lines that fit, and only extended. -/
theorem publishes_lines (data : Data) (start : Bool) (calls : List Call)
    (closed : StepsMeet Joint.step (fun joint call => joint.ledger.Closed call)
    (.init data start) calls)
    (safe : StepsMeet Joint.step Joint.Safe (.init data start) calls) :
    Throughout Joint.step Joint.Exact (.init data start) calls ∧
      StepsMeet Joint.step Joint.Extends (.init data start) calls := by
  have both := closed.and safe
  have keeps : ∀ joint call, Joint.Follows joint → joint.ledger.Closed call ∧ joint.Safe call →
      (joint.step call).Follows := fun joint call follows met => joint_follows follows met.1 met.2
  constructor
  · apply throughout_of_meets Joint.Follows keeps _ (init_follows data start) both
    rintro joint ⟨info, here, follows⟩
    exact ⟨info, here, follows.len, follows.published⟩
  · apply both.imp Joint.Follows keeps _ (init_follows data start)
    intro joint call before met other
    obtain ⟨info', there, follows'⟩ := keeps joint call before met
    obtain ⟨info, here, follows⟩ := before
    obtain ⟨added, lines⟩ := step_lines joint.ledger other
    have text : (joint.step call).ledger.text = joint.ledger.text ++ added.flatten := by
      rw [Ledger.text, Ledger.text, ← List.flatten_append, ← lines]
      rfl
    refine ⟨info, info', added, here, there, ?_, lines, ?_⟩
    · rw [follows.length, follows'.length, text, List.length_append]
      exact Nat.le_add_right _ _
    · rw [follows.published, follows'.published, text]

def zeros : Data := Buffer.replicate SDE_KMS_INFO_MAX_SIZE (Char.ofNat 0)

/-- A line of two formats, and an entry that is too long between two that fit. -/
def formats : List Call :=
  [.start ['f'], .appendFormat 0x34325241#32 0, .appendFormat 0x3231564E#32 0x0500000000000001#64,
    .append ['!'], .stop, .addKeystr ['v'] (List.replicate 12288 'x'), .addKeyint ['n'] 5]

theorem publishes_formats : Throughout Joint.step Joint.Exact (.init zeros false) formats ∧
    StepsMeet Joint.step Joint.Extends (.init zeros false) formats := by
  rw [formats]
  generalize List.replicate 12288 'x' = long
  apply publishes_lines zeros false
  · refine ⟨rfl, rfl, rfl, rfl, rfl, rfl, ?_, trivial⟩
    change (Ledger.add _ (keystrText _ _)).line = none
    rw [Ledger.add]
    split <;> rfl
  · refine ⟨fun _ _ => trivial, fun info here => ?_, fun info here => ?_, fun info here => ?_,
      fun info here => .inl (by decide), fun _ _ => trivial, fun _ _ => trivial, trivial⟩
    · cases here
      exact Nat.zero_le _
    · cases here
      exact Nat.zero_le _
    · cases here
      exact Nat.zero_le _

theorem not_exact_of_cut_key (data : Data) {key value cut : List Char}
    (fits : (keystrText key value).length < SDE_KMS_INFO_MAX_SIZE)
    (beyond : SDE_KMS_INFO_MAX_SIZE ≤ (keystrText key value).length + (cut ++ ['=']).length) :
    StepsMeet Joint.step (fun joint call => joint.ledger.Closed call) (.init data false)
        [.addKeystr key value, .start cut, .stop] ∧
      ¬Throughout Joint.step Joint.Exact (.init data false)
        [.addKeystr key value, .start cut, .stop] := by
  have two : 2 ≤ (keystrText key value).length := by
    simp [keystrText]
    omega
  generalize same : keystrText key value = text at fits beyond two
  have added : (⟨[], none⟩ : Ledger).step (.addKeystr key value) = ⟨[text], none⟩ := by
    have room : (⟨[], none⟩ : Ledger).Fits text := by
      rw [Ledger.Fits, Ledger.text, List.flatten_nil, List.length_nil, Nat.zero_add]
      exact fits
    rw [Ledger.step, same, Ledger.add, if_pos room]
    rfl
  constructor
  · refine ⟨rfl, ?_, rfl, trivial⟩
    change ((⟨[], none⟩ : Ledger).step (.addKeystr key value)).line = none
    rw [added]
  · rintro ⟨-, -, -, info, here, -, exact⟩
    -- of the three calls only the first and the last move a cursor
    obtain ⟨data₁, written₁, -⟩ :=
      snprintf_spec data (Nat.zero_lt_succ _ : 0 < SDE_KMS_INFO_MAX_SIZE) text
    have first : addKeystr (reset ⟨data, 0, 0, false⟩) key value = some
      ⟨data₁, 0 + text.length, 0, false⟩ := by
      rw [addKeystr, same, addLine, reset, written₁, Option.map_some,
        if_pos (by rw [Nat.zero_add]; exact fits)]
    rw [Nat.zero_add] at first
    obtain ⟨data₂, written₂, -⟩ := snprintf_spec data₁ fits (cut ++ ['='])
    have second : infoStart ⟨data₁, text.length, 0, false⟩ cut = some
      ⟨data₂, text.length, 0, true⟩ := by
      rw [infoStart, written₂, Option.map_some, if_neg (Nat.not_lt_of_le beyond)]
    obtain ⟨data₃, written₃, -⟩ :=
      snprintf_spec data₂ (Nat.zero_lt_succ _ : 0 < SDE_KMS_INFO_MAX_SIZE) ['\n']
    have third : infoStop ⟨data₂, text.length, 0, true⟩ = some ⟨data₃, 1, 0, true⟩ := by
      rw [infoStop, written₃, Option.map_some]
      rfl
    have last : ((addKeystr (reset ⟨data, 0, 0, false⟩) key value).bind
      (infoStart · cut)).bind infoStop =
        some info := here
    rw [first, Option.bind_some, second, Option.bind_some, third] at last
    cases last
    have left : ((⟨[text], none⟩ : Ledger).step (.start cut)).step .stop = ⟨[text], none⟩ := by
      apply if_neg
      change ¬[text].flatten.length + (cut ++ ['='] ++ ['\n']).length < _
      rw [List.flatten_singleton, @List.length_append _ (cut ++ ['=']) ['\n']]
      omega
    have lines : (((⟨[], none⟩ : Ledger).step (.addKeystr key value)).step
      (.start cut)).step .stop =
        ⟨[text], none⟩ := by rw [added, left]
    have lengths := congrArg List.length
      (exact.trans (congrArg Ledger.text lines) : data₃.toList.take 1 =
        (⟨[text], none⟩ : Ledger).text)
    rw [Ledger.text, List.flatten_singleton] at lengths
    change (data₃.toList.take 1).length = text.length at lengths
    rw [List.length_take] at lengths
    omega

/-- Almost nothing is left behind the first line. -/
theorem not_exact_long_value :
    StepsMeet Joint.step (fun joint call => joint.ledger.Closed call) (.init zeros false)
        [.addKeystr ['a'] (List.replicate 12280 'x'), .start ['p', 'o', 'r', 't'], .stop] ∧
      ¬Throughout Joint.step Joint.Exact (.init zeros false)
        [.addKeystr ['a'] (List.replicate 12280 'x'), .start ['p', 'o', 'r', 't'], .stop] := by
  have length : (keystrText ['a'] (List.replicate 12280 'x')).length = 12283 := by
    rw [keystrText, List.length_append, List.length_append, List.length_replicate]
    rfl
  apply not_exact_of_cut_key zeros
  · rw [length]
    decide
  · rw [length]
    decide

end DisplayDrivers.Kms.Info
