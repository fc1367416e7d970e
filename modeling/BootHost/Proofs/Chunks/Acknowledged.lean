import BootHost.Proofs.Chunks
import BootHost.Proofs.Tape.Dialogue
import BootHost.Proofs.Tape.Ports

/-!
# Chunked writes that nobody disturbs

What a chunked write comes to when its source spells a content and the board acknowledges whatever it
is sent. The rounds are then the blocks of the content, in order, for as long as they fit
(`rounds_of_acknowledges`), however the source is cut. If the content fits, it is covered by its blocks;
if it does not, the write stops at the last block that fits as a whole, and what it is told there
depends on whether the blocks end on the last address.
-/

namespace BootHost

open Memory

/-- So many writes that are sent over the port go out whole and are acknowledged. -/
def Acknowledges {σ : Type} [Port σ] : Nat → σ → Prop
  | 0, _ => True
  | count + 1, port =>
    ∀ (l : Line σ) address p, l.port = port →
      ∃ m m', l.send (Command.write address p).encode = (.ok (), m) ∧
        m.receiveByte = (.ok Protocol.ack, m') ∧ Acknowledges count m'.port

/-- A port that plays acknowledgments and takes everything. -/
theorem acknowledges_of_plays {σ : Type} [Port σ] [Taped σ] {count : Nat} {port : σ} (more : Bytes)
    (h : Taped.Plays (List.replicate count Protocol.ack ++ more) none port) : Acknowledges count port := by
  induction count generalizing port with
  | zero => exact True.intro
  | succ count ih =>
    rintro l address p rfl
    let t : Tape := ⟨List.replicate (count + 1) Protocol.ack ++ more, none, l.traffic⟩
    have follows : l.Follows t := ⟨h, rfl⟩
    obtain ⟨m, sent, follows⟩ := Agree.left (Line.send_follows (Command.write address p).encode follows)
    obtain ⟨m', heard, follows⟩ := Agree.left (Line.receiveByte_follows follows)
    exact ⟨m, m', sent, heard, ih follows.port⟩

namespace Memory.ChunkSize

variable (size : ChunkSize)

/-- The first blocks of a content. -/
def blocks (content : Bytes) (count : Nat) : List Payload := (List.range count).map (size.block content)

@[simp] theorem length_blocks (content : Bytes) (count : Nat) : (size.blocks content count).length = count := by
  simp [blocks]

theorem blocks_succ (content : Bytes) (count : Nat) :
    size.blocks content (count + 1) = size.block content 0 :: size.blocks (content.drop size.size) count := by
  rw [blocks, List.range_succ_eq_map, List.map_cons, List.map_map, blocks]
  congr 1
  apply List.map_congr_left
  intro i _
  exact size.block_succ content i

/-- The first blocks together are the front of the content. -/
theorem join_blocks (content : Bytes) (count : Nat) :
    Payload.join (size.blocks content count) = content.take (count * size.size) := by
  induction count generalizing content with
  | zero => simp [blocks]
  | succ count ih =>
    rw [blocks_succ, Payload.join_cons, ih, block_zero, Nat.succ_mul, Nat.add_comm, List.take_add]

/-- Blocks that are full are no more than there are. -/
theorem le_blockCount {count length : Nat} (h : count * size.size ≤ length) : count ≤ size.blockCount length := by
  have pos := size.pos
  rw [blockCount, Nat.le_div_iff_mul_le pos]
  omega

/-- So many blocks of a content fit behind a position. -/
structure Fits (count position : Nat) (content : Bytes) : Prop where
  some : count ≤ size.blockCount content.length
  inside : position + (content.take (count * size.size)).length ≤ addressCount

/-- The commands write the first blocks of a content from a position on, each in its place and below the
top of the memory. -/
def Covers (position : Nat) (content : Bytes) (commands : List Command) : Prop :=
  ∀ i c, commands[i]? = some c → ∃ address, c = .write address (size.block content i) ∧
    address.toNat = position + i * size.size ∧
    address.toNat + (size.block content i).bytes.length ≤ addressCount

variable {size} {count position : Nat} {content : Bytes}

theorem Fits.nonempty (h : size.Fits (count + 1) position content) : 0 < content.length := by
  rcases Nat.eq_zero_or_pos content.length with none | some
  · have few := h.some
    rw [none, blockCount_zero] at few
    omega
  · exact some

/-- The first of the blocks fits. -/
theorem Fits.first (h : size.Fits (count + 1) position content) :
    0 < (content.take size.size).length ∧ position + (content.take size.size).length ≤ addressCount := by
  have pos := size.pos
  have nonempty := h.nonempty
  have inside := h.inside
  rw [Nat.succ_mul, Nat.add_comm (count * _), List.take_add, List.length_append] at inside
  constructor
  · rw [List.length_take]
    omega
  · omega

/-- The others fit behind it. -/
theorem Fits.rest (h : size.Fits (count + 1) position content) :
    size.Fits count (position + (content.take size.size).length) (content.drop size.size) where
  some := by
    have some := h.some
    rw [blockCount_of_pos _ h.nonempty] at some
    rw [List.length_drop]
    exact Nat.le_of_succ_le_succ some
  inside := by
    have inside := h.inside
    rwa [Nat.succ_mul, Nat.add_comm (count * _), List.take_add, List.length_append, ← Nat.add_assoc] at inside

/-- A block with another one behind it is full. -/
theorem Fits.full (h : size.Fits (count + 2) position content) : (content.take size.size).length = size.size := by
  have nonempty := h.rest.nonempty
  rw [List.length_drop] at nonempty
  exact List.length_take_of_le (by omega)

/-- Blocks that go out one right behind the other cover the front of the content. -/
theorem Fits.covers (h : size.Fits count position content) :
    size.Covers position content (Command.inRow position (size.blocks content count)) := by
  induction count generalizing position content with
  | zero => simp [Covers, blocks, Command.inRow]
  | succ count ih =>
    obtain ⟨some, inside⟩ := h.first
    rw [blocks_succ, Command.inRow, block_zero]
    intro i c at_i
    cases i with
    | zero =>
      obtain rfl : Command.write (UInt64.ofNat position) (size.block content 0) = c := by simpa using at_i
      have below : position < addressCount := by omega
      have same : (UInt64.ofNat position).toNat = position := UInt64.toNat_ofNat_of_lt below
      refine ⟨_, rfl, ?_, ?_⟩
      · rw [same, Nat.zero_mul, Nat.add_zero]
      · rwa [same, block_zero]
    | succ i =>
      rw [List.getElem?_cons_succ] at at_i
      obtain ⟨address, rfl, place, inside⟩ := ih h.rest i c at_i
      rw [← block_succ] at inside ⊢
      refine ⟨address, rfl, ?_, inside⟩
      obtain ⟨later, rfl⟩ : ∃ later, count = later + 1 := by
        have within : i < count := by simpa using (List.getElem?_eq_some_iff.1 at_i).1
        exact Nat.exists_eq_add_one.2 (by omega)
      rw [place, h.full, Nat.succ_mul]
      omega

end Memory.ChunkSize

namespace Memory.Access

variable {σ : Type} {a b : Access σ} {source : Source} {content : Bytes}

/-- The writes of the first blocks of a content went out from an address on, one answer came for each, and
nothing else happened on the line. -/
def Covered (count : Nat) (start : UInt64) (content : Bytes) (a a' : Access σ) : Prop :=
  ∃ frames, frames.length = count ∧ a.chunkSize.Covers start.toNat content frames ∧
    Traffic.Adds (frames.flatMap Command.encode) count a.conn.line.traffic a'.conn.line.traffic

/-- How many bytes there are from an address up to the top of the memory. -/
def roomAt (start : UInt64) : Nat := addressCount - start.toNat

/-- How a chunked write of `length` bytes is stopped at the top of the memory: the fault, and where the
cursor is left. Only as many whole chunks as there is room for were written. -/
inductive StopsAtTop (size : ChunkSize) (start : UInt64) (length : Nat) : Fault → Option UInt64 → Prop where
  /-- There is no room for the first chunk. -/
  | first : roomAt start / size.size = 0 →
      StopsAtTop size start length (.addressOverflow start (min size.size length)) (some start)
  /-- The chunks end on the last address, and the next one has none. -/
  | exhausted {written : Nat} : 0 < roomAt start / size.size → size.size ∣ roomAt start →
      written = roomAt start / size.size * size.size →
      StopsAtTop size start length (.partialWrite written .endOfAddressSpace) none
  /-- There is some room behind the chunks, but not enough for the next one. -/
  | later {written : Nat} {address : UInt64} : 0 < roomAt start / size.size → ¬ size.size ∣ roomAt start →
      written = roomAt start / size.size * size.size → address.toNat = start.toNat + written →
      StopsAtTop size start length
        (.partialWrite written (.addressOverflow address (min size.size (length - written)))) (some address)

theorem add_roomAt (start : UInt64) : start.toNat + roomAt start = addressCount := by
  have below : start.toNat < addressCount := start.toNat_lt_size
  rw [roomAt]
  omega

/-- Behind the last whole chunk there is no place for the next one. -/
theorem stopsAtTop_of_cursor {start : UInt64} {size : ChunkSize} {length : Nat} {w : Written}
    (chunks : w.chunks = roomAt start / size.size) (bytes : w.bytes = roomAt start / size.size * size.size)
    (here : b.cursor = cursorAt (start.toNat + w.bytes)) (beyond : roomAt start < length) :
    ∃ e, b.place (min size.size (length - w.bytes)) = .error e ∧
      StopsAtTop size start length (stopped w e) b.cursor := by
  have top := add_roomAt start
  have pos := size.pos
  have cut := Nat.div_add_mod (roomAt start) size.size
  have short := Nat.mod_lt (roomAt start) pos
  rw [Nat.mul_comm, ← bytes] at cut
  rcases Nat.eq_zero_or_pos w.chunks with none | some
  · have nothing : w.bytes = 0 := by rw [bytes, ← chunks, none, Nat.zero_mul]
    rw [nothing, Nat.add_zero, cursorAt_toNat] at here
    rw [nothing, Nat.sub_zero]
    refine ⟨.addressOverflow start (min size.size length), place_of_overflow here (by omega), ?_⟩
    rw [here, stopped, if_neg (by omega)]
    exact .first (chunks ▸ none)
  · have whole : 0 < roomAt start / size.size := chunks ▸ some
    by_cases divides : size.size ∣ roomAt start
    · have last : start.toNat + w.bytes = addressCount := by
        have := Nat.mod_eq_zero_of_dvd divides
        omega
      rw [last, cursorAt, if_neg (Nat.lt_irrefl _)] at here
      refine ⟨.endOfAddressSpace, place_of_none here _, ?_⟩
      rw [here, stopped, if_pos some]
      exact .exhausted whole divides bytes
    · have below : start.toNat + w.bytes < addressCount := by
        have := Nat.pos_of_ne_zero (mt Nat.dvd_of_mod_eq_zero divides)
        omega
      have same : (UInt64.ofNat (start.toNat + w.bytes)).toNat = start.toNat + w.bytes :=
        UInt64.toNat_ofNat_of_lt below
      rw [cursorAt, if_pos below] at here
      refine ⟨.addressOverflow _ (min size.size (length - w.bytes)), place_of_overflow here ?_, ?_⟩
      · rw [same]
        omega
      · rw [here, stopped, if_pos some]
        exact .later whole divides bytes same

variable [Port σ]

/-- A chunk that is acknowledged. -/
theorem writeBlock_of_acknowledges {count : Nat} (acks : Acknowledges (count + 1) a.conn.line.port)
    (address : UInt64) (p : Payload) :
    ∃ a', a.writeBlock address p.bytes = (.ok (), a') ∧ Acknowledges count a'.conn.line.port := by
  let c : Command := .write address p
  obtain ⟨m, m', sent, heard, acks'⟩ :=
    acks ((a.conn.line.note (.sending c.tag c.payload.length)).note (.frame c.encode)) address p rfl
  refine ⟨a.withLine m', ?_, acks'⟩
  rw [writeBlock_eq]
  unfold command Line.command Line.issue Line.awaitAck
  rw [sent]
  dsimp only
  rw [heard]
  rfl

/-- As long as the blocks of a content fit and are acknowledged, they are the rounds. -/
theorem rounds_of_acknowledges {size : ChunkSize} {count position : Nat}
    (reads : Piece.Spells DeviceFault.isInterruption source content) (here : a.cursor = cursorAt position)
    (chunks : a.chunkSize = size) (fits : size.Fits count position content)
    (acks : Acknowledges count a.conn.line.port) :
    ∃ rest b, Rounds (size.blocks content count) source a rest b ∧
      Piece.Spells DeviceFault.isInterruption rest (content.drop (count * size.size)) := by
  induction count generalizing a source content position with
  | zero => exact ⟨source, a, .nil, by simpa using reads⟩
  | succ count ih =>
    obtain ⟨some, inside⟩ := fits.first
    have behind := fits.rest
    obtain ⟨left, filled, spells⟩ := Source.fill_of_spells size.size reads
    rw [← ChunkSize.block_zero] at filled some inside behind
    generalize block : size.block content 0 = p at filled some inside behind
    have placed := place_of_fits here some inside
    obtain ⟨a', sent, acks'⟩ :=
      writeBlock_of_acknowledges (a := a.note (.writing (UInt64.ofNat position) p.bytes.length)) acks
        (UInt64.ofNat position) p
    have leaves := leaves_of_writeBlock placed sent
    obtain ⟨rest, b, rounds, spelled⟩ := ih spells rfl (leaves.chunkSize.trans chunks) behind acks'
    refine ⟨rest, b, ?_, ?_⟩
    · rw [ChunkSize.blocks_succ, block]
      exact .cons (chunks ▸ filled) (List.ne_nil_of_length_pos some) placed sent rounds
    · rwa [List.drop_drop, Nat.add_comm, ← Nat.succ_mul] at spelled

/-- What the rounds of the first blocks leave behind. -/
theorem covered_of_acknowledges {count : Nat} {start : UInt64} (begun : a.cursor = some start)
    (reads : Piece.Spells DeviceFault.isInterruption source content)
    (fits : a.chunkSize.Fits count start.toNat content) (acks : Acknowledges count a.conn.line.port) :
    ∃ rest b, Rounds (a.chunkSize.blocks content count) source a rest b ∧
      Piece.Spells DeviceFault.isInterruption rest (content.drop (count * a.chunkSize.size)) ∧
      b.chunkSize = a.chunkSize ∧
      b.cursor = cursorAt (start.toNat + (content.take (count * a.chunkSize.size)).length) ∧
      Covered count start content a b := by
  have here : a.cursor = cursorAt start.toNat := by rw [begun, cursorAt_toNat]
  have position : positionOf a.cursor = start.toNat := by rw [begun, positionOf]
  obtain ⟨rest, b, rounds, spells⟩ := rounds_of_acknowledges reads here rfl fits acks
  have leaves := rounds.leaves
  have traffic := leaves.traffic
  rw [ChunkSize.length_blocks, position] at traffic
  refine ⟨rest, b, rounds, spells, leaves.chunkSize, ?_, _, ?_, fits.covers, traffic⟩
  · rw [leaves.cursor, position, ChunkSize.join_blocks]
  · rw [Command.length_inRow, ChunkSize.length_blocks]

/-- An access three bytes below the top of the memory, to a board that acknowledges three times. -/
def acknowledged : Access Queued where
  conn :=
    { line := { port := { incoming := [Protocol.ack, Protocol.ack, Protocol.ack] } }, phase := .established }
  established := rfl
  cursor := some 0xFFFFFFFFFFFFFFFD

/-- Over a link that acknowledges everything, a chunked write of a content that runs over the top of the
memory writes the chunks for which there is room, and nothing of the next one. -/
theorem writeAll_stops_at_top {start : UInt64} (begun : a.cursor = some start)
    (reads : Piece.Spells DeviceFault.isInterruption source content) (beyond : roomAt start < content.length)
    (acks : Acknowledges (roomAt start / a.chunkSize.size) a.conn.line.port) :
    ∃ e rest a', a.writeAll source = (.error e, rest, a') ∧
      StopsAtTop a.chunkSize start content.length e a'.cursor ∧
      Covered (roomAt start / a.chunkSize.size) start content a a' := by
  have top := add_roomAt start
  generalize hk : roomAt start / a.chunkSize.size = k at acks ⊢
  have room : k * a.chunkSize.size ≤ roomAt start := hk ▸ Nat.div_mul_le_self ..
  have front : (content.take (k * a.chunkSize.size)).length = k * a.chunkSize.size :=
    List.length_take_of_le (by omega)
  have fits : a.chunkSize.Fits k start.toNat content :=
    ⟨a.chunkSize.le_blockCount (by omega), by rw [front]; omega⟩
  obtain ⟨rest, b, rounds, spells, same, cursor, covered⟩ := covered_of_acknowledges begun reads fits acks
  rw [front] at cursor
  obtain ⟨rest', filled, -⟩ := Source.fill_of_spells a.chunkSize.size spells
  let w : Written := ⟨start, k, k * a.chunkSize.size⟩
  have counted : Written.addAll (a.chunkSize.blocks content k) ⟨start, 0, 0⟩ = w := by
    simp only [Written.addAll, ChunkSize.length_blocks, ChunkSize.join_blocks, front, Nat.zero_add, w]
  obtain ⟨e, misplaced, stops⟩ := stopsAtTop_of_cursor (b := b) (w := w) hk.symm (by rw [hk]) cursor beyond
  let p : Payload := a.chunkSize.block content k
  have length : p.bytes.length = min a.chunkSize.size (content.length - k * a.chunkSize.size) := by
    show ((content.drop (k * a.chunkSize.size)).take a.chunkSize.size).length = _
    rw [List.length_take, List.length_drop]
  have nonempty : p.bytes ≠ [] := by
    have pos := a.chunkSize.pos
    apply List.ne_nil_of_length_pos
    rw [length]
    omega
  have refused : b.place p.bytes.length = .error e := by
    rw [length]
    exact misplaced
  have gathered : rest.fill b.chunkSize.size = (.ok p.bytes, rest') := by
    rw [same]
    exact filled
  refine ⟨_, rest', b, ?_, stops, covered⟩
  rw [writeAll_of_cursor begun, rounds.writeChunks_eq, counted]
  exact (Ending.misplaced (p := p) gathered nonempty refused).writeChunks_eq

/-- An access three bytes below the top of the memory, to a board that acknowledges once. -/
def overfull : Access Queued where
  conn := { line := { port := { incoming := [Protocol.ack] } }, phase := .established }
  established := rfl
  cursor := some 0xFFFFFFFFFFFFFFFD
  chunkSize := .clamp 2

/-- Of four bytes two are written, and there is no room for the other two. -/
theorem writeAll_stops_at_top_of_overfull :
    ∃ e rest a', overfull.writeAll [.data [1, 2, 3], .data [4]] = (.error e, rest, a') ∧
      StopsAtTop (.clamp 2) 0xFFFFFFFFFFFFFFFD 4 e a'.cursor ∧
      Covered 1 0xFFFFFFFFFFFFFFFD [1, 2, 3, 4] overfull a' := by
  have reads : Piece.Spells DeviceFault.isInterruption [.data [1, 2, 3], .data [4]] [1, 2, 3, 4] :=
    .data (.data .nil)
  have acks : Acknowledges (roomAt 0xFFFFFFFFFFFFFFFD / overfull.chunkSize.size) overfull.conn.line.port :=
    acknowledges_of_plays [] (Queued.plays _)
  exact writeAll_stops_at_top rfl reads (by decide) acks

end Memory.Access

end BootHost
