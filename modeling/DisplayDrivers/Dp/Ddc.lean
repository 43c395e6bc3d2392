import Mathlib.Tactic.Ring
import DisplayDrivers.Lib.Run

/-! # EDID reads over AUX (`msm/dp/dp_aux.c`)

The driver ends the transaction at every read, so that the sink forgets its segment and its place,
and sends both again before the next one.  Here every message is acknowledged.
-/

namespace DisplayDrivers.Dp.Ddc

open DisplayDrivers.Lib.Run

abbrev U8 := BitVec 8

/-- `struct drm_dp_aux_msg`; of the buffer the first byte. -/
inductive Msg
  | native (read : Bool) (address size : ℕ)
  | i2c (read mot : Bool) (address size first : ℕ)

/-- The offset and the segment of `struct dp_aux_private`, the sink's EDID with its own two
    pointers, and what has been read so far. -/
structure Link where
  offset : ℕ
  segment : ℕ
  edid : ℕ → U8
  sinkSegment : ℕ
  sinkOffset : ℕ
  received : List U8

/-- `dp_aux_update_offset_and_segment` -/
def Link.updateOffsetAndSegment (l : Link) (read : Bool) (address first : ℕ) : Link :=
  if read || address != 0x50 && address != 0x30 then l
  else if address = 0x30 then { l with segment := first }
  else { l with offset := first }

/-- A write that does not end the transaction. -/
def Link.send (l : Link) (address byte : ℕ) : Link :=
  if address = 0x30 then { l with sinkSegment := byte }
  else if address = 0x50 then { l with sinkOffset := byte }
  else l

/-- A read that ends it; `place` is where it leaves the sink. -/
def Link.fetch (l : Link) (address size place : ℕ) : Link :=
  { l with
    sinkSegment := 0
    sinkOffset := place
    received := l.received ++
      if address = 0x50 then (List.range size).map fun i =>
        l.edid (256 * l.sinkSegment + l.sinkOffset + i) else [] }

/-- The writes of `dp_aux_transfer_helper` -/
def Link.resend (l : Link) (address : ℕ) : Link :=
  if l.offset % 0x80 = 0 then l
  else
    let l := if l.segment ≠ 0 then l.send 0x30 l.segment else l
    l.send address l.offset

/-- `dp_aux_transfer_helper` with `send_seg` -/
def Link.transferHelper (l : Link) (read mot : Bool) (address : ℕ) : Link :=
  if !mot || !read then l
  else
    let l := l.resend address
    let offset := l.offset + 0x10
    { l with offset := offset, segment := if offset = 0x80 ∨ offset = 0x100 then 0 else l.segment }

/-- `dp_aux_transfer` -/
def transfer (l : Link) : Msg × ℕ → Link
  | (.native .., _) => l
  | (.i2c read mot address size first, place) =>
    if size = 0 ∨ 128 < size then l
    else
      let l := (l.updateOffsetAndSegment read address first).transferHelper read mot address
      if read then l.fetch address size place else if 124 < size then l else l.send address first

def onWire : Msg × ℕ → Bool
  | (.native .., _) => false
  | (.i2c _ _ _ size _, _) => size != 0

def readMsg : Msg := .i2c true true 0x50 16 0

/-- The messages of a block on the wire: its segment, unless it is the first one, its offset, and
    its bytes. -/
def blockMsgs (block : Fin 256) : List Msg :=
  (if block.val / 2 = 0 then [] else [.i2c false true 0x30 1 (block / 2)]) ++
    .i2c false true 0x50 1 (block % 2 * 128) :: List.replicate 8 readMsg

def blockBytes (edid : ℕ → U8) (block : Fin 256) : List U8 :=
  (List.range 128).map fun i => edid (128 * block + i)

section Block
variable (edid : ℕ → U8) (segment base : ℕ)

/-- Before the `k`th read of the half of a segment at `base`. -/
def reading (k place : ℕ) (received : List U8) : Link where
  offset := base + 16 * k
  segment := if k = 8 then 0 else segment
  edid := edid
  sinkSegment := if k = 0 then segment else 0
  sinkOffset := place
  received := received

def chunk (k : ℕ) : List U8 :=
  (List.range 16).map fun i => edid (256 * segment + (base + 16 * k) + i)

variable {base} (half : base = 0 ∨ base = 128)
include half

theorem resend_reading {k place : ℕ} (more : k < 8) (first : k = 0 → place = base)
    (received : List U8) :
    (reading edid segment base k place received).resend 0x50 =
      ⟨base + 16 * k, segment, edid, segment, base + 16 * k, received⟩ := by
  have unfinished : ¬ k = 8 := by omega
  unfold Link.resend reading
  rw [if_neg unfinished]
  obtain rfl | later := Nat.eq_zero_or_pos k
  · have aligned : (base + 16 * 0) % 0x80 = 0 := by omega
    rw [if_pos aligned, if_pos rfl, first rfl]
    rfl
  · have inside : ¬ (base + 16 * k) % 0x80 = 0 := by omega
    rw [if_neg inside, if_neg later.ne']
    by_cases zero : segment = 0
    · rw [zero]
      rfl
    · dsimp only
      rw [if_pos zero]
      rfl

theorem transfer_read {k place : ℕ} (more : k < 8) (first : k = 0 → place = base)
    (received : List U8) (place' : ℕ) :
    transfer (reading edid segment base k place received) (readMsg, place') =
      reading edid segment base (k + 1) place' (received ++ chunk edid segment base k) := by
  have last : (base + 16 * k + 0x10 = 0x80 ∨ base + 16 * k + 0x10 = 0x100) ↔ k + 1 = 8 := by omega
  change ((reading edid segment base k place received).transferHelper true true 0x50).fetch
    0x50 16 place' = _
  rw [Link.transferHelper, if_neg (by decide)]
  dsimp only
  rw [resend_reading edid segment half more first]
  unfold Link.fetch reading chunk
  dsimp only
  rw [if_congr last rfl rfl, Nat.mul_succ, if_pos rfl, if_neg (Nat.succ_ne_zero k),
    Nat.add_assoc base]

theorem transfer_reads {k place : ℕ} (first : k = 0 → place = base) (received : List U8) {n : ℕ}
    (whole : k + n = 8) {inputs : List (Msg × ℕ)}
    (reads : inputs.map Prod.fst = List.replicate n readMsg) :
    ∃ place', run transfer (reading edid segment base k place received) inputs =
    reading edid segment base 8 place'
      (received ++ (List.range' k n).flatMap (chunk edid segment base)) := by
  induction n generalizing k place received inputs with
  | zero =>
    obtain rfl := List.map_eq_nil_iff.mp reads
    obtain rfl : k = 8 := whole
    exact ⟨place, by rw [List.range'_zero, List.flatMap_nil, List.append_nil]; rfl⟩
  | succ n ih =>
    obtain ⟨⟨msg, place₁⟩, rest, rfl, rfl, tail⟩ := List.map_eq_cons_iff.mp reads
    rw [run_cons, transfer_read edid segment half (by omega) first]
    obtain ⟨place', ends⟩ := ih (k := k + 1) nofun (received ++ chunk edid segment base k)
      (by omega) tail
    exact ⟨place', by rw [ends, List.range'_succ, List.flatMap_cons, List.append_assoc]⟩

end Block

theorem chunks (edid : ℕ → U8) (segment base n : ℕ) :
    (List.range' 0 n).flatMap (chunk edid segment base) =
    (List.range (16 * n)).map fun i => edid (256 * segment + base + i) := by
  induction n with
  | zero => rfl
  | succ n ih =>
    rw [List.range'_1_concat, List.flatMap_append, ih, Nat.mul_succ, List.range_add,
      List.map_append, List.flatMap_singleton,
      List.map_map, chunk]
    refine congrArg _ (List.map_congr_left fun i _ => ?_)
    exact congrArg edid (by dsimp only; omega)

/-- Between two blocks. -/
structure Idle (edid : ℕ → U8) (received : List U8) (l : Link) : Prop where
  edid : l.edid = edid
  segment : l.segment = 0
  sinkSegment : l.sinkSegment = 0
  received : l.received = received

variable {inputs : List (Msg × ℕ)} {received : List U8}

theorem transfer_block {edid : ℕ → U8} {l : Link} (idle : Idle edid received l) (block : Fin 256)
    (msgs : inputs.map Prod.fst = blockMsgs block) :
    Idle edid (received ++ blockBytes edid block) (run transfer l inputs) := by
  obtain ⟨seek, rest, rfl, sought, tail⟩ := List.map_eq_append_iff.mp msgs
  obtain ⟨⟨_, place⟩, reads, rfl, rfl, allRead⟩ := List.map_eq_cons_iff.mp tail
  have half : block.val % 2 * 128 = 0 ∨ block.val % 2 * 128 = 128 := by omega
  have started : transfer (run transfer l seek)
    (.i2c false true 0x50 1 (block.val % 2 * 128), place) =
      reading edid (block.val / 2) (block.val % 2 * 128) 0 (block.val % 2 * 128) received := by
    split at sought
    next low =>
      obtain rfl := List.map_eq_nil_iff.mp sought
      unfold reading
      rw [low, ← idle.edid, ← idle.received]
      exact congrArg₂ (fun segment sinkSegment => Link.mk _ segment _ sinkSegment _ _) idle.segment
        idle.sinkSegment
    next high =>
      obtain ⟨⟨_, place₁⟩, nothing, rfl, rfl, none⟩ := List.map_eq_cons_iff.mp sought
      obtain rfl := List.map_eq_nil_iff.mp none
      rw [← idle.edid, ← idle.received]
      rfl
  obtain ⟨place', ends⟩ :=
    transfer_reads edid (block.val / 2) half (k := 0) (fun _ => rfl) received rfl allRead
  rw [run_append, run_cons, started, ends]
  refine ⟨rfl, rfl, rfl, ?_⟩
  rw [chunks]
  refine congrArg _ (List.map_congr_left fun i _ => ?_)
  exact congrArg edid (by omega)

theorem transfer_silent (l : Link) (input : Msg × ℕ) (quiet : onWire input = false) :
    transfer l input = l := by
  obtain ⟨msg, place⟩ := input
  cases msg with
  | native => rfl
  | i2c read mot address size first => exact if_pos (.inl (by simpa [onWire] using quiet))

theorem run_onWire (l : Link) (inputs : List (Msg × ℕ)) :
    run transfer l inputs = run transfer l (inputs.filter onWire) := by
  have same (l l' : Link) (input : Msg × ℕ) (eq : id l = id l') : id (transfer l input) = id
    (transfer l' input) :=
    congrArg (transfer · input) eq
  exact view_run_filter transfer_silent same rfl inputs

theorem transfer_blocks {edid : ℕ → U8} {l : Link} (idle : Idle edid received l)
    (blocks : List (Fin 256)) (msgs : inputs.map Prod.fst = blocks.flatMap blockMsgs) :
    (run transfer l inputs).received = received ++ blocks.flatMap (blockBytes edid) := by
  induction blocks generalizing l received inputs with
  | nil =>
    obtain rfl := List.map_eq_nil_iff.mp msgs
    rw [List.flatMap_nil, List.append_nil]
    exact idle.received
  | cons block blocks ih =>
    obtain ⟨first, rest, rfl, here, later⟩ := List.map_eq_append_iff.mp msgs
    rw [run_append, ih (transfer_block idle block here) later, List.flatMap_cons, List.append_assoc]

/-- Whatever goes on besides, the blocks that are read one after the other are those of the EDID. -/
theorem edid_read {l : Link} (segment : l.segment = 0) (sinkSegment : l.sinkSegment = 0)
    (blocks : List (Fin 256))
    {inputs : List (Msg × ℕ)}
    (msgs : (inputs.filter onWire).map Prod.fst = blocks.flatMap blockMsgs) :
    (run transfer l inputs).received = l.received ++ blocks.flatMap (blockBytes l.edid) := by
  have idle : Idle l.edid l.received l := ⟨rfl, segment, sinkSegment, rfl⟩
  rw [run_onWire]
  exact transfer_blocks idle blocks msgs

theorem edid_read_twoBlocks :
    (run transfer ⟨0, 0, .ofNat 8, 0, 0, []⟩
      ((.native true 0x200 6, 0) :: ([2, 0].flatMap blockMsgs).map (·, 77))).received =
        [2, 0].flatMap (blockBytes (.ofNat 8)) :=
  edid_read (l := ⟨0, 0, .ofNat 8, 0, 0, []⟩) rfl rfl [2, 0] rfl

end DisplayDrivers.Dp.Ddc
