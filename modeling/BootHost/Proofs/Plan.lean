import BootHost.Command
import BootHost.Memory.Chunk
import BootHost.Setup

/-!
# The plan of a run

What a run is to send, told from its set-up and the content of the file alone. The cursor is a
position from zero to the number of addresses, the last of which is no address any more. An action
that does not fit at the cursor plans nothing, and only the file moves the cursor. `Setup.commands`
is the plan of a whole run in its four parts, `Setup.stream` the bytes that it comes to, and
`commands_eq_plan` says that the parts are the plans of the actions, one after the other.
-/

namespace BootHost

namespace Memory

/-- The place of a cursor; a cursor that is lost stands behind the last address. -/
def positionOf : Option UInt64 → Nat
  | some address => address.toNat
  | none => addressCount

/-- The cursor at a place. -/
def cursorAt (position : Nat) : Option UInt64 :=
  if position < addressCount then some (UInt64.ofNat position) else none

theorem cursorAt_positionOf (cursor : Option UInt64) : cursorAt (positionOf cursor) = cursor := by
  cases cursor with
  | none => simp [cursorAt, positionOf]
  | some address =>
    have : address.toNat < addressCount := address.toNat_lt_size
    simp [cursorAt, positionOf, this]

theorem cursorAt_toNat (address : UInt64) : cursorAt address.toNat = some address :=
  cursorAt_positionOf (some address)

/-- A sum is the cursor at the place that it comes to. -/
theorem sum?_eq (a b : UInt64) : sum? a b = cursorAt (a.toNat + b.toNat) := by
  unfold cursorAt
  split
  · rename_i word
    exact sum?_eq_some_iff.2 (UInt64.toNat_ofNat_of_lt word)
  · rename_i wraps
    exact sum?_eq_none_iff.2 (Nat.not_lt.1 wraps)

/-- Stepping over a block that fits leads to the place behind it. -/
theorem advance_eq (address : UInt64) (length : Nat) :
    advance address length =
      if address.toNat + length ≤ addressCount then .ok (cursorAt (address.toNat + length))
      else .error (.addressOverflow address length) := by
  have below : address.toNat < addressCount := address.toNat_lt_size
  unfold advance
  by_cases none : length = 0
  · rw [if_pos none, none, Nat.add_zero, if_pos (Nat.le_of_lt below), cursorAt_toNat]
  · have nonempty : 0 < length := Nat.pos_of_ne_zero none
    rw [if_neg none]
    split
    · rename_i last found
      have word : last.toNat < addressCount := last.toNat_lt_size
      have behind : last.toNat + 1 = address.toNat + length := (last?_eq_some_iff nonempty).1 found
      rw [if_pos (by omega), sum?_eq, ← behind]
      rfl
    · rename_i missing
      have beyond : addressCount < address.toNat + length := (last?_eq_none_iff nonempty).1 missing
      rw [if_neg (Nat.not_le.2 beyond)]

namespace ChunkSize

variable (size : ChunkSize)

/-- How many blocks a number of bytes is cut into. -/
def blockCount (length : Nat) : Nat := (length + size.size - 1) / size.size

/-- The block number `i` of a content. -/
def block (content : Bytes) (i : Nat) : Payload where
  bytes := (content.drop (i * size.size)).take size.size
  length_lt :=
    Nat.lt_of_le_of_lt (Nat.le_trans (List.length_take_le ..) size.le) (by decide)

/-- The writes of a content from a position on, one block right behind the other. -/
def writes (position : Nat) (content : Bytes) : List Command :=
  (List.range (size.blockCount content.length)).map fun i =>
    .write (UInt64.ofNat (position + i * size.size)) (size.block content i)

theorem blockCount_zero : size.blockCount 0 = 0 := by
  have := size.pos
  exact Nat.div_eq_of_lt (by omega)

theorem blockCount_of_pos {length : Nat} (h : 0 < length) :
    size.blockCount length = size.blockCount (length - size.size) + 1 := by
  have pos := size.pos
  unfold blockCount
  by_cases fits : length ≤ size.size
  · rw [Nat.sub_eq_zero_of_le fits, Nat.div_eq_of_lt (by omega : 0 + size.size - 1 < size.size),
      show length + size.size - 1 = length - 1 + size.size by omega, Nat.add_div_right _ pos,
      Nat.div_eq_of_lt (by omega)]
  · rw [show length + size.size - 1 = length - size.size + size.size - 1 + size.size by omega,
      Nat.add_div_right _ pos]

theorem block_zero (content : Bytes) : (size.block content 0).bytes = content.take size.size := by
  simp [block]

theorem block_succ (content : Bytes) (i : Nat) :
    size.block content (i + 1) = size.block (content.drop size.size) i := by
  simp only [block, List.drop_drop, Nat.add_mul, Nat.one_mul, Nat.add_comm]

@[simp] theorem writes_nil (position : Nat) : size.writes position [] = [] := by
  simp [writes, blockCount_zero]

/-- The first block goes out at the position, and the rest right behind it. -/
theorem writes_of_ne_nil (position : Nat) {content : Bytes} (h : content ≠ []) :
    size.writes position content =
      .write (UInt64.ofNat position) (size.block content 0) ::
        size.writes (position + (content.take size.size).length) (content.drop size.size) := by
  have first : size.writes position content =
      .write (UInt64.ofNat position) (size.block content 0) ::
        size.writes (position + size.size) (content.drop size.size) := by
    unfold writes
    rw [size.blockCount_of_pos (List.length_pos_iff.2 h), List.range_succ_eq_map, List.map_cons,
      List.map_map, Nat.zero_mul, Nat.add_zero, List.length_drop]
    congr 1
    apply List.map_congr_left
    intro i _
    simp only [Function.comp, block_succ, Nat.succ_mul, Nat.add_assoc, Nat.add_comm size.size]
  rw [first]
  -- behind a short block there is nothing left, and the place of nothing does not matter
  by_cases short : content.length ≤ size.size
  · rw [List.drop_of_length_le short, writes_nil, writes_nil]
  · rw [List.length_take_of_le (Nat.le_of_not_le short)]

end ChunkSize

end Memory

open Memory

namespace Command

/-- The write of an immediate value at a cursor, if it fits there. -/
def ofImmediate? (i : Immediate) : Option UInt64 → Option Command
  | none => none
  | some address =>
    if h : 1 ≤ i.length ∧ i.length ≤ 8 ∧ address.toNat + i.length ≤ addressCount then
      some (.write address ⟨BigEndian.encode i.length i.value.toNat, by
        rw [BigEndian.length_encode]
        exact Nat.lt_of_le_of_lt h.2.1 (by decide)⟩)
    else none

theorem ofImmediate?_eq_none {i : Immediate} {cursor : Option UInt64}
    (h : ¬ (1 ≤ i.length ∧ i.length ≤ 8)) : ofImmediate? i cursor = none := by
  cases cursor with
  | none => rfl
  | some address =>
    apply dif_neg
    intro fits
    exact h ⟨fits.1, fits.2.1⟩

theorem tag_of_ofImmediate? {i : Immediate} {cursor : Option UInt64} {c : Command}
    (h : ofImmediate? i cursor = some c) : c.tag = .write := by
  unfold ofImmediate? at h
  split at h
  · cases h
  · split at h
    · obtain rfl := Option.some.inj h
      rfl
    · cases h

end Command

namespace Action

/-- What an action is to send, with a content for the file, from a cursor on. -/
def commands (size : ChunkSize) (content : Bytes) (cursor : Option UInt64) : Action → List Command
  | .writeFile _ =>
    if positionOf cursor + content.length ≤ addressCount then size.writes (positionOf cursor) content
    else []
  | .writeValue i => (Command.ofImmediate? i cursor).toList
  | .read length => (cursor.map (Command.readBlock length)).toList
  | .jump => (cursor.map Command.jumpTo).toList

/-- Where an action that does not fail leaves the cursor. -/
def cursorAfter (content : Bytes) (cursor : Option UInt64) : Action → Option UInt64
  | .writeFile _ =>
    if positionOf cursor + content.length ≤ addressCount then
      cursorAt (positionOf cursor + content.length)
    else cursor
  | _ => cursor

/-- Behind the last address only nothing fits, and nothing goes out for it. -/
@[simp] theorem commands_writeFile_none (path : String) (size : ChunkSize) (content : Bytes) :
    (writeFile path).commands size content none = [] := by
  by_cases fits : positionOf none + content.length ≤ addressCount
  · have empty : content.length = 0 := by
      simp only [positionOf] at fits
      omega
    rw [commands, if_pos fits, List.length_eq_zero_iff.1 empty, ChunkSize.writes_nil]
  · rw [commands, if_neg fits]

@[simp] theorem cursorAfter_writeFile_none (path : String) (content : Bytes) :
    (writeFile path).cursorAfter content none = none := by
  simp [cursorAfter, positionOf, cursorAt]

@[simp] theorem cursorAfter_writeValue (i : Immediate) (content : Bytes) (cursor : Option UInt64) :
    (writeValue i).cursorAfter content cursor = cursor := rfl

@[simp] theorem cursorAfter_read (length : UInt32) (content : Bytes) (cursor : Option UInt64) :
    (read length).cursorAfter content cursor = cursor := rfl

@[simp] theorem cursorAfter_jump (content : Bytes) (cursor : Option UInt64) :
    jump.cursorAfter content cursor = cursor := rfl

/-- What actions are to send, one after the other. -/
def plan (size : ChunkSize) (content : Bytes) : List Action → Option UInt64 → List Command
  | [], _ => []
  | action :: rest, cursor =>
    action.commands size content cursor ++ plan size content rest (action.cursorAfter content cursor)

end Action

namespace Setup

variable (s : Setup) (content : Bytes)

/-- A file is to be written, and it fits below the top of the memory. -/
def writesFile : Prop := s.request.writeFile ≠ none ∧ s.address.toNat + content.length ≤ addressCount

instance : Decidable (s.writesFile content) := by
  unfold writesFile
  infer_instance

/-- How many blocks the file goes out in. -/
def fileBlocks : Nat := if s.writesFile content then ChunkSize.largest.blockCount content.length else 0

/-- The writes of the file. -/
def fileWrites : List Command :=
  if s.writesFile content then ChunkSize.largest.writes s.address.toNat content else []

/-- The cursor behind the file, where everything else happens. -/
def cursor : Option UInt64 :=
  cursorAt (if s.writesFile content then s.address.toNat + content.length else s.address.toNat)

/-- The write of the value, if one is asked for and fits. -/
def valueWrite : Option Command :=
  s.request.writeValue.bind fun i => Command.ofImmediate? i (s.cursor content)

/-- The read, if one is asked for and there is an address left. -/
def blockRead : Option Command :=
  s.request.readLength.bind fun length => (s.cursor content).map (Command.readBlock length)

/-- The jump, if it is asked for and there is an address left. -/
def finalJump : Option Command :=
  if s.request.jump then (s.cursor content).map Command.jumpTo else none

/-- All commands that a run is to send. -/
def commands : List Command :=
  s.fileWrites content ++ (s.valueWrite content).toList ++ (s.blockRead content).toList ++
    (s.finalJump content).toList

/-- All that a run is to send: the magic, and then its commands. -/
def stream : Bytes := Protocol.magic ++ (s.commands content).flatMap Command.encode

example : stream { address := 0x40, request := { writeFile := some "a", jump := true } } [1, 2] =
    [0x47, 0x4F, 0x42, 0x45, 0x41, 0x52, 0x53, 0x21] ++
      [0x57, 0, 0, 0, 2, 0, 0, 0, 0, 0, 0, 0, 0x40, 1, 2] ++ [0x4A, 0, 0, 0, 0, 0, 0, 0, 0x42] := by
  decide

theorem length_fileWrites : (s.fileWrites content).length = s.fileBlocks content := by
  unfold fileWrites fileBlocks
  split <;> simp [ChunkSize.writes]

/-- Only the read of the plan is a read. -/
theorem fileWrites_tag : ∀ c ∈ s.fileWrites content, c.tag ≠ .read := by
  intro c hc
  unfold fileWrites at hc
  split at hc
  · obtain ⟨i, -, rfl⟩ := List.mem_map.1 hc
    simp [Command.tag]
  · simp at hc

theorem valueWrite_tag : ∀ c ∈ (s.valueWrite content).toList, c.tag ≠ .read := by
  intro c hc
  obtain ⟨i, -, write⟩ := Option.bind_eq_some_iff.1 (Option.mem_toList.1 hc)
  rw [Command.tag_of_ofImmediate? write]
  decide

theorem finalJump_tag : ∀ c ∈ (s.finalJump content).toList, c.tag ≠ .read := by
  intro c hc
  have jump := Option.mem_toList.1 hc
  unfold finalJump at jump
  split at jump
  · obtain ⟨address, -, rfl⟩ := Option.map_eq_some_iff.1 jump
    simp [Command.jumpTo, Command.tag]
  · cases jump

theorem cursor_of_file {path : String} (h : s.request.writeFile = some path) :
    s.cursor content = (Action.writeFile path).cursorAfter content (some s.address) := by
  have requested : s.request.writeFile ≠ none := by simp [h]
  unfold cursor Action.cursorAfter
  by_cases fits : positionOf (some s.address) + content.length ≤ addressCount
  · rw [if_pos fits, if_pos ⟨requested, fits⟩]
    rfl
  · rw [if_neg fits, if_neg fun w => fits w.2]
    exact cursorAt_positionOf (some s.address)

theorem fileWrites_of_file {path : String} (h : s.request.writeFile = some path) :
    s.fileWrites content = (Action.writeFile path).commands .largest content (some s.address) := by
  have requested : s.request.writeFile ≠ none := by simp [h]
  unfold fileWrites Action.commands
  by_cases fits : positionOf (some s.address) + content.length ≤ addressCount
  · rw [if_pos fits, if_pos ⟨requested, fits⟩]
    rfl
  · rw [if_neg fits, if_neg fun w => fits w.2]

theorem cursor_of_no_file (h : s.request.writeFile = none) : s.cursor content = some s.address := by
  simp only [cursor, writesFile, h, ne_eq, not_true_eq_false, false_and, if_false]
  exact cursorAt_toNat s.address

/-- The parts of the plan are the plans of the actions. -/
theorem commands_eq_plan :
    s.commands content = Action.plan .largest content s.request.actions (some s.address) := by
  unfold commands valueWrite blockRead finalJump
  cases hf : s.request.writeFile with
  | none =>
    rw [s.cursor_of_no_file content hf]
    cases hv : s.request.writeValue <;> cases hn : s.request.readLength <;>
      cases hj : s.request.jump <;>
      simp [Request.actions, hf, hv, hn, hj, fileWrites, writesFile, Action.plan, Action.commands]
  | some path =>
    rw [s.cursor_of_file content hf, s.fileWrites_of_file content hf]
    generalize hc : (Action.writeFile path).cursorAfter content (some s.address) = cursor
    cases hv : s.request.writeValue <;> cases hn : s.request.readLength <;>
      cases hj : s.request.jump <;>
      simp [Request.actions, hf, hv, hn, hj, hc, Action.plan, Action.commands]

end Setup

end BootHost
