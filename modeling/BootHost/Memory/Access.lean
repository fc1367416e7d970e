import BootHost.Connection
import BootHost.Line.Exchange
import BootHost.Memory.Chunk
import BootHost.Memory.Progress
import BootHost.Storage

/-!
# Access to memory

What the host does to the board's memory over an established connection. An access has a cursor,
the address that the next operation uses, which is lost once a write has reached the last address.
Only the acknowledged chunks of a chunked write move it. Nothing here changes the phase of the
connection, so that it is established is part of the type.
-/

namespace BootHost.Memory

/-- An established connection with a cursor into the board's memory. -/
structure Access (σ : Type) where
  conn : Connection σ
  established : conn.phase = .established
  /-- The address that the next operation uses. -/
  cursor : Option UInt64
  chunkSize : ChunkSize := .largest
  progress : Progress := {}

namespace Access

variable {σ : Type}

/-- Opens an access at an address; the connection must be established. -/
def start (address : UInt64) (conn : Connection σ) : Except Fault (Access σ) :=
  if h : conn.phase = .established then
    .ok { conn := conn, established := h, cursor := some address }
  else .error (.wrongPhase .established conn.phase)

/-- The access after something went over its line. -/
def withLine (line : Line σ) (a : Access σ) : Access σ :=
  { a with conn := { a.conn with line := line }, established := a.established }

/-- Adds a note. -/
def note (n : Note) (a : Access σ) : Access σ := a.withLine (a.conn.line.note n)

/-- The address at the cursor. -/
def here (a : Access σ) : Except Fault UInt64 :=
  match a.cursor with
  | some address => .ok address
  | none => .error .endOfAddressSpace

/-- The address at the cursor and the one past `length` bytes there. -/
def place (length : Nat) (a : Access σ) : Except Fault (UInt64 × Option UInt64) :=
  match a.here with
  | .error e => .error e
  | .ok address =>
    match advance address length with
    | .error e => .error e
    | .ok next => .ok (address, next)

/-- Refuses a file that cannot fit, ahead of its first chunk. One of which no size is told passes. -/
def checkSize (size : Option Nat) (a : Access σ) : Except Fault Unit :=
  match size with
  | none => .ok ()
  | some size =>
    match a.place size with
    | .error e => .error e
    | .ok _ => .ok ()

/-- A file is refused for the size that is told of it only, and as a block of that size is. -/
theorem checkSize_eq_error_iff {size : Option Nat} {a : Access σ} {e : Fault} :
    a.checkSize size = .error e ↔ ∃ n, size = some n ∧ a.place n = .error e := by
  cases size with
  | none => simp [checkSize]
  | some n => cases placed : a.place n <;> simp [checkSize, placed]

theorem checkSize_of_place {size : Nat} {a : Access σ} {placed : UInt64 × Option UInt64}
    (hp : a.place size = .ok placed) : a.checkSize (some size) = .ok () := by
  unfold checkSize
  dsimp only
  rw [hp]

/-- The access with a count that starts over. -/
def counting (length : Option Nat) (a : Access σ) : Access σ := { a with progress := a.progress.start length }

/-- The access after a chunk of `length` bytes was acknowledged. -/
def passed (next : Option UInt64) (length : Nat) (a : Access σ) : Access σ :=
  { a with cursor := next, progress := a.progress.advance length }

variable [Port σ]

/-- Sends a command and waits until it is acknowledged. -/
def command (c : Command) (stage : Stage) (a : Access σ) : Except Fault Unit × Access σ :=
  match a.conn.line.command c stage with
  | (r, line) => (r, a.withLine line)

/-- Writes bytes at an address with one command. -/
def writeBlock (address : UInt64) (bytes : Bytes) (a : Access σ) : Except Fault Unit × Access σ :=
  match Command.writeBlock address bytes with
  | .error e => (.error e, a)
  | .ok c => a.command c .write

/-- A fault that ends a chunked write; a refusal after the first chunk is a partial write. -/
def stopped (w : Written) (e : Fault) : Fault :=
  if 0 < w.chunks then .partialWrite w.bytes e else e

/-- Writes the rest of a source in chunks; `w` is what was written before. Each chunk is
acknowledged before the next one is gathered. The source is returned as far as it was not read. -/
def writeChunks (w : Written) (source : Source) (a : Access σ) :
    Except Fault Written × Source × Access σ :=
  match _h : source.fill a.chunkSize.size with
  | (.error e, rest) => (.error (.input e), rest, a)
  | (.ok [], rest) => (.ok w, rest, a.note .done)
  | (.ok (b :: bytes), rest) =>
    match a.place (b :: bytes).length with
    | .error e => (.error (stopped w e), rest, a)
    | .ok (address, next) =>
      match (a.note (.writing address (b :: bytes).length)).writeBlock address (b :: bytes) with
      | (.error e, a') => (.error e, rest, a')
      | (.ok (), a') =>
        writeChunks (w.add (b :: bytes).length) rest (a'.passed next (b :: bytes).length)
termination_by Piece.totalWeight source
decreasing_by exact Source.totalWeight_fill_lt _h

theorem writeChunks_of_error {w : Written} {source rest : Source} {a : Access σ} {e : DeviceFault}
    (h : source.fill a.chunkSize.size = (.error e, rest)) :
    a.writeChunks w source = (.error (.input e), rest, a) := by
  rw [writeChunks]
  split <;> simp_all

theorem writeChunks_of_nil {w : Written} {source rest : Source} {a : Access σ}
    (h : source.fill a.chunkSize.size = (.ok [], rest)) :
    a.writeChunks w source = (.ok w, rest, a.note .done) := by
  rw [writeChunks]
  split <;> simp_all

/-- One round of a chunked write. -/
theorem writeChunks_of_cons {w : Written} {source rest : Source} {a : Access σ} {b : UInt8}
    {bytes : Bytes} (h : source.fill a.chunkSize.size = (.ok (b :: bytes), rest)) :
    a.writeChunks w source =
      match a.place (b :: bytes).length with
      | .error e => (.error (stopped w e), rest, a)
      | .ok (address, next) =>
        match (a.note (.writing address (b :: bytes).length)).writeBlock address (b :: bytes) with
        | (.error e, a') => (.error e, rest, a')
        | (.ok (), a') =>
          writeChunks (w.add (b :: bytes).length) rest (a'.passed next (b :: bytes).length) := by
  rw [writeChunks]
  split <;> rename_i hf <;> rw [h] at hf
  · simp at hf
  · simp at hf
  · obtain ⟨⟨rfl, rfl⟩, rfl⟩ : (_ ∧ _) ∧ _ := by simpa using hf
    rfl

/-- Writes everything a source yields at the cursor. -/
def writeAll (source : Source) (a : Access σ) : Except Fault Written × Source × Access σ :=
  match a.here with
  | .error e => (.error e, source, a)
  | .ok address => a.writeChunks ⟨address, 0, 0⟩ source

theorem writeAll_of_cursor {a : Access σ} {start : UInt64} (begun : a.cursor = some start) (source : Source) :
    a.writeAll source = a.writeChunks ⟨start, 0, 0⟩ source := by
  unfold writeAll here
  rw [begun]

theorem writeAll_of_none {a : Access σ} (exhausted : a.cursor = none) (source : Source) :
    a.writeAll source = (.error .endOfAddressSpace, source, a) := by
  unfold writeAll here
  rw [exhausted]

/-- Writes a whole file at the cursor. A file that is known not to fit is refused before the first chunk. -/
def writeFile (storage : Storage) (path : String) (a : Access σ) :
    Except Fault Written × Access σ :=
  match storage path with
  | .error e => (.error (.source path e), a)
  | .ok file =>
    match a.checkSize file.size with
    | .error e => (.error e, a)
    | .ok () =>
      match (a.counting file.size).writeAll file.content with
      | (.ok w, _, a') => (.ok w, { a' with progress := a'.progress.finish })
      | (.error e, _, a') => (.error e, { a' with progress := a'.progress.abandon })

theorem writeFile_of_unopened {storage : Storage} {path : String} {cause : DeviceFault}
    (fails : storage path = .error cause) (a : Access σ) :
    a.writeFile storage path = (.error (.source path cause), a) := by
  unfold writeFile
  rw [fails]

theorem writeFile_of_refused {storage : Storage} {path : String} {file : OpenFile} {a : Access σ} {e : Fault}
    (opens : storage path = .ok file) (refused : a.checkSize file.size = .error e) :
    a.writeFile storage path = (.error e, a) := by
  unfold writeFile
  rw [opens]
  dsimp only
  rw [refused]

/-- How the count of a file's bytes ends. -/
def closed (r : Except Fault Written) (p : Progress) : Progress :=
  match r with
  | .ok _ => p.finish
  | .error _ => p.abandon

/-- A file that is not refused is written with a count of its own. -/
theorem writeFile_of_accepted {storage : Storage} {path : String} {file : OpenFile} {a b : Access σ}
    {r : Except Fault Written} {rest : Source} (opens : storage path = .ok file)
    (accepted : a.checkSize file.size = .ok ())
    (hw : (a.counting file.size).writeAll file.content = (r, rest, b)) :
    a.writeFile storage path = (r, { b with progress := closed r b.progress }) := by
  unfold writeFile
  rw [opens]
  dsimp only
  rw [accepted]
  dsimp only
  rw [hw]
  cases r <;> rfl

/-- Writes the low-order bytes of a value at the cursor, which stays where it is. -/
def writeValue (value : UInt64) (length : Nat) (a : Access σ) : Except Fault Written × Access σ :=
  match Command.valueBytes value length with
  | .error e => (.error e, a)
  | .ok bytes =>
    match a.place length with
    | .error e => (.error e, a)
    | .ok (address, _) =>
      match (a.note (.writingValue address value length)).writeBlock address bytes with
      | (.error e, a') => (.error e, a')
      | (.ok (), a') => (.ok ⟨address, 1, length⟩, a'.note .done)

/-- Reads a block at the cursor; the result is its address and what lies there. -/
def read (length : UInt32) (a : Access σ) : Except Fault (UInt64 × Bytes) × Access σ :=
  match a.here with
  | .error e => (.error e, a)
  | .ok address =>
    match (a.conn.line.note (.reading address length)).fetch length address with
    | (.error e, line) => (.error e, a.withLine line)
    | (.ok bytes, line) => (.ok (address, bytes), a.withLine line)

/-- Makes the board jump to the cursor; the result is the address jumped to. -/
def jump (a : Access σ) : Except Fault UInt64 × Access σ :=
  match a.here with
  | .error e => (.error e, a)
  | .ok address =>
    match (a.note (.jumping address)).command (.jumpTo address) .jump with
    | (.error e, a') => (.error e, a')
    | (.ok (), a') => (.ok address, a'.note .done)

end Access

end BootHost.Memory
