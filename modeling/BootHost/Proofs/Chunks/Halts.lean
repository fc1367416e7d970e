import BootHost.Port.Queued
import BootHost.Proofs.Chunks

/-!
# Where a chunked write halts

A chunked write that is stopped from outside, by an answer, by the line or by its source, leaves exactly
the acknowledged chunks behind it. The rounds before the stop are as any acknowledged rounds; what the
last one adds is told case by case (`Halts`): the whole frame and its answer, the whole frame alone, a
front of the frame, or nothing. Nothing is read of the source but the chunks and what was gathered for
the next one.
-/

namespace BootHost

open Memory

/-- The fault comes from the board, from the line or from the data to write. -/
def Fault.isExternal : Fault → Bool
  | .refused .. | .transport _ | .input _ => true
  | _ => false

theorem Fault.isExternal_of_isUsage {e : Fault} (usage : e.isUsage = true) : e.isExternal = false := by
  cases e with
  | transport | refused | input => cases usage
  | _ => rfl

namespace Line

variable {σ : Type} [Port σ] {l m m' : Line σ} {c : Command}

theorem adds_of_send_error {e : DeviceFault} (h : l.send c.encode = (.error e, m)) :
    ∃ part, part <+: c.encode ∧ Traffic.Adds part 0 l.traffic m.traffic := by
  obtain ⟨part, front, traffic⟩ := traffic_of_send_error h
  exact ⟨part, front, traffic ▸ .cut part l.traffic⟩

theorem adds_of_unheard {e : DeviceFault} (sent : l.send c.encode = (.ok (), m))
    (heard : m.receiveByte = (.error e, m')) : Traffic.Adds c.encode 0 l.traffic m'.traffic := by
  obtain ⟨n, less, traffic⟩ := traffic_of_receive_error (receive_of_receiveByte_error heard)
  obtain rfl : n = 0 := by omega
  rw [traffic, traffic_of_send_ok sent]
  exact .exchange _ 0 _

theorem adds_of_heard {answer : UInt8} (sent : l.send c.encode = (.ok (), m))
    (heard : m.receiveByte = (.ok answer, m')) : Traffic.Adds c.encode 1 l.traffic m'.traffic := by
  rw [(traffic_of_receive_ok (receive_of_receiveByte_ok heard)).2, traffic_of_send_ok sent]
  exact .exchange _ 1 _

end Line

namespace Memory.Access

variable {σ : Type} {a a' b : Access σ} {source left rest : Source} {chunks : List Payload} {e : Fault}

/-- A chunk without a place is not refused from outside. -/
theorem not_external_of_place {length : Nat} (w : Written) (hp : a.place length = .error e) :
    (stopped w e).isExternal = false := by
  unfold stopped
  split
  · rfl
  · exact Fault.isExternal_of_isUsage (isUsage_of_place hp)

variable [Port σ]

theorem fails_of_writeBlock {address : UInt64} {p : Payload} (h : a.writeBlock address p.bytes = (.error e, a')) :
    a.wire.Fails (.write address p) .write e a'.wire := by
  rw [writeBlock_eq] at h
  exact fails_of_command h

/-- How a chunked write from `a` halts behind the chunks that were acknowledged, when these led to `b`
and left so much of the source: what was gathered for the next chunk, the fault, what is left of the
source then, and the access. -/
inductive Halts (a : Access σ) (chunks : List Payload) (left : Source) (b : Access σ) :
    Bytes → Fault → Source → Access σ → Prop where
  /-- The answer is no acknowledgment: the frame went out whole, and the answer was read. -/
  | refused {p : Payload} {rest : Source} {l m m' : Line σ} {answer : UInt8} {a' : Access σ} :
      left.fill a.chunkSize.size = (.ok p.bytes, rest) → p.bytes ≠ [] → l.wire = b.wire →
      l.send (Command.write (UInt64.ofNat (positionOf b.cursor)) p).encode = (.ok (), m) →
      m.receiveByte = (.ok answer, m') → answer ≠ Protocol.ack → a'.wire = m'.wire →
      Traffic.Adds (Command.rowStream (positionOf a.cursor) (chunks ++ [p])) (chunks.length + 1)
        a.conn.line.traffic a'.conn.line.traffic →
      Halts a chunks left b p.bytes (.refused .write (.ofByte answer)) rest a'
  /-- The line fails ahead of the answer: the frame went out whole, and nothing was read. -/
  | unheard {p : Payload} {rest : Source} {l m m' : Line σ} {cause : DeviceFault} {a' : Access σ} :
      left.fill a.chunkSize.size = (.ok p.bytes, rest) → p.bytes ≠ [] → l.wire = b.wire →
      l.send (Command.write (UInt64.ofNat (positionOf b.cursor)) p).encode = (.ok (), m) →
      m.receiveByte = (.error cause, m') → a'.wire = m'.wire →
      Traffic.Adds (Command.rowStream (positionOf a.cursor) (chunks ++ [p])) chunks.length
        a.conn.line.traffic a'.conn.line.traffic →
      Halts a chunks left b p.bytes (.transport cause) rest a'
  /-- The line fails while the frame goes out: it took a front of the frame. -/
  | unsent {p : Payload} {rest : Source} {l m : Line σ} {cause : DeviceFault} {part : Bytes} {a' : Access σ} :
      left.fill a.chunkSize.size = (.ok p.bytes, rest) → p.bytes ≠ [] → l.wire = b.wire →
      l.send (Command.write (UInt64.ofNat (positionOf b.cursor)) p).encode = (.error cause, m) →
      a'.wire = m.wire → part <+: (Command.write (UInt64.ofNat (positionOf b.cursor)) p).encode →
      Traffic.Adds (Command.rowStream (positionOf a.cursor) chunks ++ part) chunks.length
        a.conn.line.traffic a'.conn.line.traffic →
      Halts a chunks left b p.bytes (.transport cause) rest a'
  /-- The source fails: nothing of what was gathered went out. -/
  | unread {lost : Bytes} {rest : Source} {cause : DeviceFault} :
      left.fill a.chunkSize.size = (.error cause, rest) →
      Traffic.Adds (Command.rowStream (positionOf a.cursor) chunks) chunks.length
        a.conn.line.traffic b.conn.line.traffic →
      Halts a chunks left b lost (.input cause) rest b

/-- The ending of a chunked write that is stopped from outside. -/
theorem Ending.halts {w : Written} (ends : Ending w left b (.error e) rest a') (leaves : Leaves chunks a b)
    (external : e.isExternal = true) :
    a'.cursor = b.cursor ∧ ∃ gathered, Halts a chunks left b gathered e rest a' ∧
      gathered.length ≤ a.chunkSize.size ∧ left.bytes = gathered ++ rest.bytes := by
  have before := leaves.traffic
  have position := leaves.position
  cases ends with
  | unread hf =>
    rw [leaves.chunkSize] at hf
    obtain ⟨lost, few, cut⟩ := Source.bytes_of_gather_error hf
    exact ⟨rfl, lost, .unread hf before, Nat.le_of_lt few, cut⟩
  | misplaced _ _ hp =>
    rw [not_external_of_place _ hp] at external
    cases external
  | @broken _ p address next _ _ hf nonempty hp hw =>
    have here := address_of_place hp
    have fails := fails_of_writeBlock hw
    rw [leaves.chunkSize] at hf
    have cursor : a'.cursor = b.cursor := (cursor_of_writeBlock hw).trans rfl
    refine ⟨cursor, p.bytes, ?_, Source.length_le_of_fill hf, Source.bytes_of_fill hf⟩
    -- the round starts on the wire of `b`, where the note has changed nothing
    have still : (b.note (.writing address p.bytes.length)).wire = b.wire := rfl
    rw [still] at fails
    rw [← here] at fails
    generalize start : b.wire = u at fails
    generalize stop : a'.wire = v at fails
    have whole (count : Nat)
        (adds : Traffic.Adds (Command.write (UInt64.ofNat (positionOf b.cursor)) p).encode count u.traffic v.traffic) :
        Traffic.Adds (Command.rowStream (positionOf a.cursor) (chunks ++ [p])) (chunks.length + count)
          a.conn.line.traffic a'.conn.line.traffic := by
      rw [Command.rowStream_append, Command.rowStream_singleton, ← position]
      rw [← start, ← stop] at adds
      exact before.append adds
    cases fails with
    | unsent sent =>
      obtain ⟨part, front, adds⟩ := Line.adds_of_send_error sent
      rw [← Line.wire_traffic, ← start, ← Line.wire_traffic, ← stop] at adds
      exact .unsent hf nonempty start.symm sent stop front (before.append adds)
    | unheard sent heard =>
      exact .unheard hf nonempty start.symm sent heard stop (whole 0 (Line.adds_of_unheard sent heard))
    | refused sent heard notAck =>
      exact .refused hf nonempty start.symm sent heard notAck stop (whole 1 (Line.adds_of_heard sent heard))

/-- A chunked write that is stopped by an answer, by the line or by its source leaves exactly the
acknowledged chunks: the cursor stands behind them, the line took their frames and what the last round
added, and the source was read no further than what was gathered for the next chunk. -/
theorem writeAll_halts_behind_acknowledged {start : UInt64} (begun : a.cursor = some start)
    (failed : a.writeAll source = (.error e, rest, a')) (external : e.isExternal = true) :
    ∃ chunks left b gathered, Rounds chunks source a left b ∧ Halts a chunks left b gathered e rest a' ∧
      start.toNat + (Payload.join chunks).length ≤ addressCount ∧
      a'.cursor = cursorAt (start.toNat + (Payload.join chunks).length) ∧
      gathered.length ≤ a.chunkSize.size ∧ source.bytes = Payload.join chunks ++ gathered ++ rest.bytes := by
  rw [writeAll_of_cursor begun, writeChunks_eq_iff] at failed
  obtain ⟨chunks, left, b, rounds, ending⟩ := failed
  have leaves := rounds.leaves
  have position : positionOf a.cursor = start.toNat := by rw [begun, positionOf]
  obtain ⟨cursor, gathered, halts, few, cut⟩ := ending.halts leaves external
  refine ⟨chunks, left, b, gathered, rounds, halts, ?_, ?_, few, ?_⟩
  · rw [← position]
    exact leaves.fits
  · rw [cursor, leaves.cursor, position]
  · rw [rounds.bytes, cut, List.append_assoc]

/-- An access to a board that acknowledges one chunk and refuses the next. -/
def halting : Access Queued where
  conn := { line := { port := { incoming := [Protocol.ack, Protocol.nack] } }, phase := .established }
  established := rfl
  cursor := some 0x40
  chunkSize := .clamp 2

/-- Five bytes, cut where no chunk ends, with an interruption between them. -/
def fiveBytes : Source := [.data [1, 2, 3], .fault (.plain .interrupted), .data [4, 5]]

/-- The second of three chunks is refused: the cursor stands behind the first, and the last byte was not
read. -/
theorem writeAll_halts_behind_acknowledged_of_refusing_board :
    ∃ rest a', halting.writeAll fiveBytes = (.error (.refused .write .nack), rest, a') ∧
      rest = [.data [5]] ∧ a'.cursor = some 0x42 ∧
      ∃ chunks left b gathered, Rounds chunks fiveBytes halting left b ∧
        Halts halting chunks left b gathered (.refused .write .nack) rest a' := by
  have failed : halting.writeAll fiveBytes =
      (.error (.refused .write .nack), (halting.writeAll fiveBytes).2) := Prod.ext (by decide +kernel) rfl
  refine ⟨_, _, failed, by decide +kernel, by decide +kernel, ?_⟩
  obtain ⟨chunks, left, b, gathered, rounds, halts, -⟩ := writeAll_halts_behind_acknowledged rfl failed rfl
  exact ⟨chunks, left, b, gathered, rounds, halts⟩

end Memory.Access

end BootHost
