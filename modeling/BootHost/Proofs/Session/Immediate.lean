import BootHost.Port.Queued
import BootHost.Proofs.Chunks
import BootHost.Proofs.Mirror
import Mathlib.Algebra.GroupWithZero.Nat

/-!
# The write of a value

The write of a value is a chunked write of its low-order bytes, which go out in one chunk. The two are
written apart and tell different things in their notes, but a command does not look at the notes
(`writeBlock_same`), so over every line they say the same and come to the same. What the chunked write does
beyond that is to move: an acknowledged chunk takes the cursor and the progress on, where the write of a
value leaves both as they are.
-/

namespace BootHost

open Memory

theorem BigEndian.capacity_eq (width : Nat) : capacity width = 256 ^ width := by
  induction width with
  | zero => rfl
  | succ width ih => rw [capacity, ih, Nat.pow_succ']

namespace Memory.Access

variable {σ : Type} [Port σ] {a b : Access σ} {bytes : Bytes} {source : Source}

/-- What becomes of a block does not depend on the notes. -/
theorem writeBlock_same (h : Same a b) (address : UInt64) (bytes : Bytes) :
    Agree Same (a.writeBlock address bytes) (b.writeBlock address bytes) := by
  have paired : Paired Line.Same a b := ⟨h.wire, h.cursor, h.chunkSize⟩
  have written := Line.mirror_same.likeness.writeBlock address bytes paired
  exact ⟨written.result, written.state.line, written.state.cursor, written.state.chunkSize⟩

/-- A chunked write of bytes that one chunk has room for. -/
theorem writeAll_of_one_chunk (nonempty : bytes ≠ []) (few : bytes.length ≤ a.chunkSize.size)
    (hs : Piece.Spells DeviceFault.isInterruption source bytes) :
    ∃ rest, a.writeAll source =
      match a.place bytes.length with
      | .error e => (.error e, rest, a)
      | .ok (address, next) =>
        match (a.note (.writing address bytes.length)).writeBlock address bytes with
        | (.error e, a') => (.error e, rest, a')
        | (.ok (), a') => (.ok ⟨address, 1, bytes.length⟩, rest, (a'.passed next bytes.length).note .done) := by
  cases begun : a.cursor with
  | none =>
    refine ⟨source, ?_⟩
    rw [place_of_none begun, writeAll, here, begun]
  | some start =>
    obtain ⟨left, filled, spells⟩ := Source.fill_of_spells a.chunkSize.size hs
    rw [List.take_of_length_le few] at filled
    rw [List.drop_of_length_le few] at spells
    let p : Payload := ⟨bytes, countable_of_fill filled⟩
    rw [writeAll_of_cursor begun]
    cases hp : a.place bytes.length with
    | error e => exact ⟨left, (Ending.misplaced (p := p) filled nonempty hp).writeChunks_eq⟩
    | ok placed =>
      obtain ⟨address, next⟩ := placed
      obtain rfl : start = address := by
        rw [(cursor_of_place hp).1] at begun
        exact (Option.some.inj begun).symm
      rcases hw : (a.note (.writing start bytes.length)).writeBlock start bytes with ⟨e | _, a'⟩
      · refine ⟨left, ?_⟩
        dsimp only
        rw [(Ending.broken (p := p) filled nonempty hp hw).writeChunks_eq, hw]
      · obtain ⟨rest, nothing, -⟩ := Source.fill_of_spells (a'.passed next bytes.length).chunkSize.size spells
        rw [List.take_nil] at nothing
        have rounds : Rounds [p] source a left (a'.passed next bytes.length) :=
          .cons filled nonempty hp hw .nil
        refine ⟨rest, ?_⟩
        dsimp only
        rw [rounds.writeChunks_eq, writeChunks_of_nil nothing, hw]
        simp [Written.addAll, p]

/-- The write of a value moves neither the cursor nor the progress. -/
theorem writeValue_stays (value : UInt64) (length : Nat) (a : Access σ) :
    (a.writeValue value length).2.cursor = a.cursor ∧ (a.writeValue value length).2.progress = a.progress := by
  unfold writeValue
  split
  · exact ⟨rfl, rfl⟩
  · split
    · exact ⟨rfl, rfl⟩
    · split <;> rename_i hw
      · exact ⟨(cursor_of_writeBlock hw).trans rfl, (progress_of_writeBlock hw).trans rfl⟩
      · exact ⟨(cursor_of_writeBlock hw).trans rfl, (progress_of_writeBlock hw).trans rfl⟩

/-- The write of a value and the chunked write of its bytes come to the same, and only the second moves. -/
theorem writeValue_with_chunk {value : UInt64} {length : Nat} (short : 1 ≤ length ∧ length ≤ 8)
    (few : length ≤ a.chunkSize.size)
    (hs : Piece.Spells DeviceFault.isInterruption source (BigEndian.encode length value.toNat)) :
    ∃ r rest b b', a.writeValue value length = (r, b) ∧ a.writeAll source = (r, rest, b') ∧
      Same b { b' with cursor := a.cursor } ∧
      (∀ w, r = .ok w → b'.cursor = w.end? ∧ b'.progress = a.progress.advance length) ∧
      ∀ e, r = .error e → b'.cursor = a.cursor ∧ b'.progress = a.progress := by
  have size : (BigEndian.encode length value.toNat).length = length := BigEndian.length_encode ..
  have nonempty : BigEndian.encode length value.toNat ≠ [] := by
    rw [← List.length_pos_iff, size]
    exact short.1
  obtain ⟨rest, chunked⟩ := writeAll_of_one_chunk nonempty (by rwa [size]) hs
  rw [size] at chunked
  unfold writeValue Command.valueBytes
  rw [if_pos short]
  dsimp only
  cases hp : a.place length with
  | error e =>
    rw [hp] at chunked
    exact ⟨.error e, rest, a, a, rfl, chunked, .refl a, nofun, fun _ _ => ⟨rfl, rfl⟩⟩
  | ok placed =>
    obtain ⟨address, next⟩ := placed
    obtain ⟨-, -, rfl⟩ := cursor_of_place hp
    have noted : Same (a.note (.writingValue address value length)) (a.note (.writing address length)) :=
      ⟨rfl, rfl, rfl⟩
    obtain ⟨r, b, b', hb, hb', same⟩ := (writeBlock_same noted address _).cases
    rw [hp] at chunked
    dsimp only at chunked ⊢
    rw [hb'] at chunked
    rw [hb]
    have stays : b.cursor = a.cursor := (cursor_of_writeBlock hb).trans rfl
    have begun : b'.cursor = a.cursor := (cursor_of_writeBlock hb').trans rfl
    have progress : b'.progress = a.progress := (progress_of_writeBlock hb').trans rfl
    cases r with
    | error e =>
      refine ⟨.error e, rest, b, b', rfl, chunked, ⟨same.wire, stays, same.chunkSize⟩, nofun, ?_⟩
      intro _ _
      exact ⟨begun, progress⟩
    | ok _ =>
      refine ⟨_, rest, b.note .done, _, rfl, chunked, ⟨same.wire, stays, same.chunkSize⟩, ?_, nofun⟩
      rintro w hw
      obtain rfl := Except.ok.inj hw
      exact ⟨rfl, congrArg (Progress.advance length) progress⟩

/-- The write of a value is a chunked write of its low-order bytes that does not move: over every line it
makes the same calls and comes to the same result, and it leaves the same behind but for the cursor and the
progress, which an acknowledged chunk takes on and the write of a value does not. Of a length that is not
one to eight it says so, and calls nothing. -/
theorem writeValue_is_chunk_that_stays (value : UInt64) (length : Nat) (a : Access σ) :
    (1 ≤ length → length ≤ 8 → length ≤ a.chunkSize.size →
      ∃ bytes, Command.valueBytes value length = .ok bytes ∧ bytes.length = length ∧
        BigEndian.value bytes = value.toNat % 256 ^ length ∧
        ∀ source, Piece.Spells DeviceFault.isInterruption source bytes →
          ∃ r rest b b', a.writeValue value length = (r, b) ∧ a.writeAll source = (r, rest, b') ∧
            Same b { b' with cursor := a.cursor } ∧
            (∀ w, r = .ok w → b'.cursor = w.end? ∧ b'.progress = a.progress.advance length) ∧
            ∀ e, r = .error e → b'.cursor = a.cursor ∧ b'.progress = a.progress) ∧
    ((a.writeValue value length).2.cursor = a.cursor ∧ (a.writeValue value length).2.progress = a.progress) ∧
    (¬ (1 ≤ length ∧ length ≤ 8) → a.writeValue value length = (.error (.immediateLength length), a)) := by
  refine ⟨?_, writeValue_stays value length a, ?_⟩
  · intro some short few
    refine ⟨BigEndian.encode length value.toNat, ?_, BigEndian.length_encode .., ?_, ?_⟩
    · exact if_pos ⟨some, short⟩
    · rw [BigEndian.value_encode, BigEndian.capacity_eq]
    · intro source hs
      exact writeValue_with_chunk ⟨some, short⟩ few hs
  · intro wrong
    unfold writeValue Command.valueBytes
    rw [if_neg wrong]

/-- An access eight addresses below the top, to a board that acknowledges. -/
def lastEight : Access Queued :=
  { belowTop with cursor := some 0xFFFFFFFFFFFFFFF8, chunkSize := .largest }

/-- A value of eight bytes, up to the last address: its chunk leaves no address behind, where the write of
the value stays below it. -/
theorem writeValue_is_chunk_that_stays_below_top :
    ∃ r rest b b', lastEight.writeValue 0x0102030405060708 8 = (r, b) ∧
      lastEight.writeAll [.data [1, 2, 3, 4, 5, 6, 7, 8]] = (r, rest, b') ∧
      r = .ok ⟨0xFFFFFFFFFFFFFFF8, 1, 8⟩ ∧ b.cursor = some 0xFFFFFFFFFFFFFFF8 ∧ b'.cursor = none := by
  have written : (lastEight.writeValue 0x0102030405060708 8).1 = .ok ⟨0xFFFFFFFFFFFFFFF8, 1, 8⟩ := by
    decide +kernel
  obtain ⟨as_chunk, stays, -⟩ := writeValue_is_chunk_that_stays 0x0102030405060708 8 lastEight
  obtain ⟨bytes, spelled, -, -, chunked⟩ := as_chunk (by decide) (by decide) (by decide)
  obtain rfl : [1, 2, 3, 4, 5, 6, 7, 8] = bytes := Except.ok.inj spelled
  obtain ⟨r, rest, b, b', value, chunk, -, moved, -⟩ :=
    chunked _ (OpenFile.regular_holds [1, 2, 3, 4, 5, 6, 7, 8]).reads
  rw [value] at written stays
  refine ⟨r, rest, b, b', value, chunk, written, stays.1, ?_⟩
  exact (moved _ written).1

/-- The chunk takes the progress on and the value does not, so more than the cursor tells them apart. -/
theorem writeValue_and_chunk_differ_in_progress :
    (lastEight.writeValue 0x0102030405060708 8).1 = (lastEight.writeAll [.data [1, 2, 3, 4, 5, 6, 7, 8]]).1 ∧
      (lastEight.writeValue 0x0102030405060708 8).2.progress ≠
        (lastEight.writeAll [.data [1, 2, 3, 4, 5, 6, 7, 8]]).2.2.progress := by
  decide +kernel

end Memory.Access

end BootHost
