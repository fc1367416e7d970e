import BootHost.Port.Queued
import BootHost.Proofs.Session
import Mathlib.Data.List.Forall2

/-!
# The cursor of a session

Where the cursor stands during a session, and what that means for the commands. A course of
exchanges starts at the place of the cursor, each of its commands carries the address there, and each
acknowledged chunk moves it on by its own length (`Course`). Every call is such a course, whatever
becomes of it, and so is a whole session. The place never passes the top of the memory, where there
is no address left, and no write runs over it.
-/

namespace BootHost

open Memory

/-- The address that a command carries. -/
def Command.address : Command → UInt64
  | .read h => h.address
  | .write address _ => address
  | .jump h => h.address

/-- A write has something to write, no more than a chunk may hold, and ends below the top of the
memory. -/
def Command.StaysInside : Command → Prop
  | .write address p =>
    1 ≤ p.bytes.length ∧ p.bytes.length ≤ Protocol.maxChunk ∧ address.toNat + p.bytes.length ≤ addressCount
  | _ => True

theorem Memory.positionOf_le (cursor : Option UInt64) : positionOf cursor ≤ addressCount := by
  cases cursor with
  | none => exact Nat.le_refl _
  | some address => exact Nat.le_of_lt address.toNat_lt_size

theorem Memory.positionOf_cursorAt {position : Nat} (h : position ≤ addressCount) :
    positionOf (cursorAt position) = position := by
  unfold cursorAt
  split
  · rename_i below
    exact UInt64.toNat_ofNat_of_lt below
  · rw [positionOf]
    omega

namespace Exchange

/-- Each command carries the address of the cursor, which stands at a place before the first one. -/
def Placed : Nat → List Exchange → Prop
  | _, [] => True
  | position, x :: said =>
    (cursorAt position = some x.command.address ∧ x.command.StaysInside) ∧ Placed (position + x.step) said

theorem placed_append {position : Nat} {said said' : List Exchange} :
    Placed position (said ++ said') ↔ Placed position said ∧ Placed (position + travelled said) said' := by
  induction said generalizing position with
  | nil => simp [Placed]
  | cons x said ih =>
    simp only [List.cons_append, Placed, travelled_cons, ih, and_assoc, Nat.add_assoc]

theorem Placed.at {position : Nat} {before behind : List Exchange} {x : Exchange}
    (h : Placed position (before ++ x :: behind)) :
    cursorAt (position + travelled before) = some x.command.address ∧ x.command.StaysInside :=
  (placed_append.1 h).2.1

end Exchange

open Exchange

namespace Memory.Access

variable {σ : Type} {a a' a'' : Access σ}

theorem cursor_of_place {length : Nat} {address : UInt64} {next : Option UInt64}
    (h : a.place length = .ok (address, next)) :
    a.cursor = some address ∧ address.toNat + length ≤ addressCount ∧
      next = cursorAt (address.toNat + length) := by
  rw [place_eq] at h
  split at h
  · simp at h
  · rename_i here
    split at h
    · rename_i fits
      obtain ⟨rfl, rfl⟩ : _ ∧ _ := by simpa using h
      exact ⟨here, fits, rfl⟩
    · simp at h

/-- A chunk that was gathered and has its place is a payload that stays inside the memory. -/
theorem payload_of_fill {source rest : Source} {b : UInt8} {bytes : Bytes} {address : UInt64}
    {next : Option UInt64} (hf : source.fill a.chunkSize.size = (.ok (b :: bytes), rest))
    (hp : a.place (b :: bytes).length = .ok (address, next)) :
    ∃ p : Payload, p.bytes = b :: bytes ∧ (Command.write address p).StaysInside := by
  have few : (b :: bytes).length ≤ Protocol.maxChunk :=
    Nat.le_trans (Source.length_le_of_fill hf) a.chunkSize.le
  have countable : (b :: bytes).length < UInt32.size := Nat.lt_of_le_of_lt few (by decide)
  obtain ⟨-, fits, -⟩ := cursor_of_place hp
  refine ⟨⟨b :: bytes, countable⟩, rfl, ?_, few, fits⟩
  simp

variable [Port σ]

/-- An access hands exchanges to its line while the cursor goes along with them. -/
structure Course (said : List Exchange) (a a' : Access σ) : Prop where
  hands : Hands said a a'
  placed : Placed (positionOf a.cursor) said
  position : positionOf a'.cursor = positionOf a.cursor + travelled said

theorem Course.nothing (hw : a.wire = a'.wire) (hh : a'.conn.line.handed = a.conn.line.handed)
    (hc : a'.cursor = a.cursor) : Course [] a a' where
  hands := .nothing hw hh
  placed := True.intro
  position := by rw [hc, travelled_nil, Nat.add_zero]

theorem Course.refl (a : Access σ) : Course [] a a := .nothing rfl rfl rfl

theorem Course.note {n : Note} (h : n.frame? = none) (a : Access σ) : Course [] a (a.note n) :=
  .nothing rfl (Line.handed_note h a.conn.line) rfl

/-- One exchange at the place of the cursor. -/
theorem Course.single {x : Exchange} (hands : Hands [x] a a') (here : a.cursor = some x.command.address)
    (inside : x.command.StaysInside) (position : positionOf a'.cursor = positionOf a.cursor + x.step) :
    Course [x] a a' where
  hands := hands
  placed := by
    refine ⟨⟨?_, inside⟩, True.intro⟩
    rw [cursorAt_positionOf, here]
  position := position

theorem Course.append {said said' : List Exchange} (h : Course said a a') (h' : Course said' a' a'') :
    Course (said ++ said') a a'' where
  hands := h.hands.append h'.hands
  placed := by
    rw [placed_append, ← h.position]
    exact ⟨h.placed, h'.placed⟩
  position := by rw [h'.position, h.position, travelled_append, Nat.add_assoc]

/-- A note in front of a course. -/
theorem Course.afterNote {said : List Exchange} {n : Note} (h : Course said (a.note n) a')
    (hn : n.frame? = none) : Course said a a' :=
  (Course.note hn a).append h

/-- What follows a course without touching line or cursor belongs to it. -/
theorem Course.congr {said : List Exchange} (h : Course said a a') (hc : a''.conn = a'.conn)
    (hp : a''.cursor = a'.cursor) : Course said a a'' := by
  have still : Course [] a' a'' := .nothing (by rw [wire, wire, hc]) (by rw [hc]) hp
  simpa using h.append still

theorem cursor_of_command {c : Command} {stage : Stage} {r : Except Fault Unit}
    (h : a.command c stage = (r, a')) : a'.cursor = a.cursor := by
  unfold command at h
  exact (Prod.mk.inj h).2 ▸ rfl

theorem cursor_of_writeBlock {address : UInt64} {bytes : Bytes} {r : Except Fault Unit}
    (h : a.writeBlock address bytes = (r, a')) : a'.cursor = a.cursor := by
  unfold writeBlock at h
  split at h
  · exact (Prod.mk.inj h).2 ▸ rfl
  · exact cursor_of_command h

theorem progress_of_command {c : Command} {stage : Stage} {r : Except Fault Unit}
    (h : a.command c stage = (r, a')) : a'.progress = a.progress := by
  unfold command at h
  exact (Prod.mk.inj h).2 ▸ rfl

theorem progress_of_writeBlock {address : UInt64} {bytes : Bytes} {r : Except Fault Unit}
    (h : a.writeBlock address bytes = (r, a')) : a'.progress = a.progress := by
  unfold writeBlock at h
  split at h
  · exact (Prod.mk.inj h).2 ▸ rfl
  · exact progress_of_command h

/-- A chunk that is acknowledged moves the cursor behind it. -/
theorem chunk_passed {address : UInt64} {next : Option UInt64} {p : Payload}
    (hp : a.place p.bytes.length = .ok (address, next)) (inside : (Command.write address p).StaysInside)
    (hw : (a.note (.writing address p.bytes.length)).writeBlock address p.bytes = (.ok (), a')) :
    Course [⟨true, .write address p, ackOf (.ok ())⟩] a (a'.passed next p.bytes.length) := by
  obtain ⟨here, fits, rfl⟩ := cursor_of_place hp
  have sent := writeBlock_hands true hw
  have hands : Hands [⟨true, .write address p, ackOf (.ok ())⟩] (a.note (.writing address p.bytes.length))
      (a'.passed (cursorAt (address.toNat + p.bytes.length)) p.bytes.length) := ⟨sent.carried, sent.handed⟩
  refine (Course.single hands here inside ?_).afterNote rfl
  show positionOf (cursorAt _) = positionOf a.cursor + _
  rw [positionOf_cursorAt fits, here]
  rfl

/-- A chunk that is not acknowledged leaves the cursor where it is. -/
theorem chunk_broken {address : UInt64} {next : Option UInt64} {p : Payload} {e : Fault}
    (hp : a.place p.bytes.length = .ok (address, next)) (inside : (Command.write address p).StaysInside)
    (hw : (a.note (.writing address p.bytes.length)).writeBlock address p.bytes = (.error e, a')) :
    Course [⟨true, .write address p, ackOf (.error e)⟩] a a' := by
  obtain ⟨here, -, -⟩ := cursor_of_place hp
  refine (Course.single (writeBlock_hands true hw) here inside ?_).afterNote rfl
  rw [cursor_of_writeBlock hw]
  rfl

/-- A chunked write is a course of chunks, from whatever source and wherever it stops. -/
theorem writeChunks_course (w : Written) (source : Source) (a : Access σ) :
    ∃ said, Course said a (a.writeChunks w source).2.2 ∧ ∀ x ∈ said, x.isChunk = true := by
  fun_induction writeChunks w source a with
  | case1 w source a => exact ⟨[], .refl a, by simp⟩
  | case2 w source a => exact ⟨[], .note rfl a, by simp⟩
  | case3 w source a => exact ⟨[], .refl a, by simp⟩
  | case4 w source a b bytes rest hf address next hp e a' hw =>
    obtain ⟨p, hb, inside⟩ := payload_of_fill hf hp
    rw [← hb] at hp hw
    exact ⟨_, chunk_broken hp inside hw, by simp⟩
  | case5 w source a b bytes rest hf address next hp a' hw ih =>
    obtain ⟨p, hb, inside⟩ := payload_of_fill hf hp
    obtain ⟨said, later, chunks⟩ := ih
    rw [← hb] at hp hw later ⊢
    refine ⟨_, (chunk_passed hp inside hw).append later, ?_⟩
    simpa using chunks

theorem writeAll_course {source rest : Source} {r : Except Fault Written}
    (h : a.writeAll source = (r, rest, a')) :
    ∃ said, Course said a a' ∧ ∀ x ∈ said, x.isChunk = true := by
  unfold writeAll at h
  split at h
  · obtain ⟨-, -, rfl⟩ : _ ∧ _ ∧ a = a' := by simpa using h
    exact ⟨[], .refl a, by simp⟩
  · rename_i address _
    have course := writeChunks_course ⟨address, 0, 0⟩ source a
    rwa [h] at course

theorem writeFile_course {storage : Storage} {path : String} {r : Except Fault Written}
    (h : a.writeFile storage path = (r, a')) :
    ∃ said, Course said a a' ∧ ∀ x ∈ said, x.isChunk = true := by
  rcases writeFile_cases h with ⟨rfl, -⟩ | ⟨source, p, p', rest, b, hw, rfl⟩
  · exact ⟨[], .refl a', by simp⟩
  · obtain ⟨said, course, chunks⟩ := writeAll_course hw
    have begun : Course [] a { a with progress := p } := .nothing rfl rfl rfl
    exact ⟨said, (begun.append course).congr rfl rfl, chunks⟩

/-- A call that is one command, which moves nothing, goes out at the cursor. -/
theorem Ends.course {α : Type} {c : Command} {stage : Stage} {r : Except Fault α} {n : Note}
    (h : Ends ((a.note n).command c stage) (r, a')) (hn : n.frame? = none) (hc : c.tag ≠ .read)
    (here : a.cursor = some c.address) (inside : c.StaysInside) :
    ∃ said, Course said a a' ∧ ∀ x ∈ said, x.isChunk = false := by
  generalize hw : (a.note n).command c stage = y at h
  obtain ⟨r', b⟩ := y
  have still : positionOf b.cursor = positionOf a.cursor := by
    rw [cursor_of_command hw]
    rfl
  have course := (Course.single (command_hands false hc hw) here inside still).afterNote hn
  cases h with
  | failed => exact ⟨_, course, by simp⟩
  | done => exact ⟨_, course.append (.note rfl b), by simp⟩

theorem writeValue_course {value : UInt64} {length : Nat} {r : Except Fault Written}
    (h : a.writeValue value length = (r, a')) :
    ∃ said, Course said a a' ∧ ∀ x ∈ said, x.isChunk = false := by
  rcases writeValue_cases h with ⟨rfl, -⟩ | ⟨address, next, n, p, short, hp, hn, ends⟩
  · exact ⟨[], .refl a', by simp⟩
  · obtain ⟨here, fits, -⟩ := cursor_of_place hp
    have inside : (Command.write address p).StaysInside :=
      ⟨short.1, Nat.le_trans short.2 (by decide), fits⟩
    rw [writeBlock_eq] at ends
    exact ends.course hn (by simp [Command.tag]) here inside

theorem read_course {length : UInt32} {r : Except Fault (UInt64 × Bytes)}
    (h : a.read length = (r, a')) :
    ∃ said, Course said a a' ∧ ∀ x ∈ said, x.isChunk = false := by
  rcases read_cases h with ⟨rfl, -⟩ | ⟨address, r', l, here, hl, same⟩
  · exact ⟨[], .refl a', by simp⟩
  · obtain ⟨-, rfl⟩ := Prod.mk.inj same
    have hands : Hands [⟨false, .readBlock length address, r'.toOption⟩] (a.note (.reading address length))
        (a.withLine l) := fetch_hands hl
    exact ⟨_, (Course.single hands here True.intro rfl).afterNote rfl, by simp⟩

theorem jump_course {r : Except Fault UInt64} (h : a.jump = (r, a')) :
    ∃ said, Course said a a' ∧ ∀ x ∈ said, x.isChunk = false := by
  rcases jump_cases h with ⟨rfl, -⟩ | ⟨address, here, ends⟩
  · exact ⟨[], .refl a', by simp⟩
  · exact ends.course rfl (by simp [Command.tag, Command.jumpTo]) here True.intro

/-- Every call is a course of exchanges, whatever becomes of it, and only a chunked write has chunks. -/
theorem call_course (c : Call) (a : Access σ) :
    ∃ said, Course said a (a.call c).2 ∧ ∀ x ∈ said, x.isChunk = c.isChunked := by
  cases c with
  | writeAll source =>
    unfold call
    dsimp only
    split <;> exact writeAll_course ‹_›
  | perform storage action =>
    unfold call perform
    cases action <;> dsimp only <;> split
    · exact writeFile_course ‹_›
    · exact writeFile_course ‹_›
    · exact writeValue_course ‹_›
    · exact writeValue_course ‹_›
    · exact read_course ‹_›
    · exact read_course ‹_›
    · exact jump_course ‹_›
    · exact jump_course ‹_›

/-- A session is a course of exchanges up to each of its calls. -/
theorem session_course (calls : List Call) (a : Access σ) :
    ∃ history : List (List Exchange),
      List.Forall₂ (fun c said => ∀ x ∈ said, x.isChunk = c.isChunked) calls history ∧
      ∀ k, Course (history.take k).flatten a (a.after (calls.take k)) := by
  induction calls generalizing a with
  | nil =>
    refine ⟨[], .nil, ?_⟩
    intro k
    rw [List.take_nil, List.take_nil]
    exact .refl a
  | cons c rest ih =>
    obtain ⟨said, first, kind⟩ := call_course c a
    obtain ⟨history, kinds, later⟩ := ih (a.call c).2
    refine ⟨said :: history, .cons kind kinds, ?_⟩
    intro k
    cases k with
    | zero => exact .refl a
    | succ k => exact first.append (later k)

/-- The exchanges of a session, call by call, and how the cursor goes along with them. -/
structure Tracks (start : Nat) (calls : List Call) (a : Access σ) (history : List (List Exchange)) : Prop where
  /-- Each call has its own exchanges, and those of a chunked write are the chunks. -/
  kinds : List.Forall₂ (fun c said => ∀ x ∈ said, x.isChunk = c.isChunked) calls history
  /-- Up to each call, the exchanges are all that was handed to the line. -/
  hands : ∀ k, Hands (history.take k).flatten a (a.after (calls.take k))
  /-- Acknowledged chunks never lead past the top of the memory. -/
  fits : ∀ k, start + travelled (history.take k).flatten ≤ addressCount
  /-- Behind each call the cursor stands behind the acknowledged chunks, and is lost at the top. -/
  cursor : ∀ k, (a.after (calls.take k)).cursor = cursorAt (start + travelled (history.take k).flatten)
  /-- Each command carries the address that the cursor had then, and no write runs over the top. -/
  placed : ∀ before x behind, history.flatten = before ++ x :: behind →
    cursorAt (start + travelled before) = some x.command.address ∧ x.command.StaysInside

/-- Through any calls on an access, each of which may succeed or fail in any way, the cursor moves
over the acknowledged chunks and nothing else. -/
theorem session_keeps_cursor (calls : List Call) {a : Access σ} {start : UInt64}
    (begun : a.cursor = some start) : ∃ history, Tracks start.toNat calls a history := by
  have place : positionOf a.cursor = start.toNat := by rw [begun, positionOf]
  obtain ⟨history, kinds, courses⟩ := session_course calls a
  have position (k : Nat) : positionOf (a.after (calls.take k)).cursor =
      start.toNat + travelled (history.take k).flatten := by
    rw [(courses k).position, place]
  refine ⟨history, kinds, ?_, ?_, ?_, ?_⟩
  · intro k
    exact (courses k).hands
  · intro k
    rw [← position]
    exact positionOf_le _
  · intro k
    rw [← position, cursorAt_positionOf]
  · intro before x behind cut
    have whole := (courses history.length).placed
    rw [List.take_length, cut, place] at whole
    exact whole.at

/-- An access four bytes below the top of the memory, to a board that acknowledges twice. -/
def belowTop : Access Queued where
  conn := { line := { port := { incoming := [Protocol.ack, Protocol.ack] } }, phase := .established }
  established := rfl
  cursor := some 0xFFFFFFFFFFFFFFFC
  chunkSize := .clamp 2

/-- A write that ends on the last address, and a read behind it. -/
theorem session_keeps_cursor_up_to_top :
    belowTop.cursor = some 0xFFFFFFFFFFFFFFFC ∧
      ∃ history, Tracks (0xFFFFFFFFFFFFFFFC : UInt64).toNat
        [.writeAll [.data [1, 2, 3], .fault (.plain .interrupted), .data [4]],
          .perform (fun _ => .error .notFound) (.read 1)] belowTop history :=
  ⟨rfl, session_keeps_cursor _ rfl⟩

end Memory.Access

end BootHost
