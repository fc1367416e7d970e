import BootHost.Proofs.Conversation.Operations
import BootHost.Run
import Mathlib.Algebra.GroupWithZero.Nat

/-!
# Sessions

A session is any sequence of calls on one access, each of which may succeed or fail in any way. What
a call hands to the line is a list of exchanges: commands, each with the answer that it got. The
exchanges are all that happens on the wire (`Wire.Carries`), and they are the frames that the
journal shows (`Line.handed`), so nothing is sent beside them. What each call can come to is said
once (`writeFile_cases`, `writeValue_cases`, `read_cases`, `jump_cases`): it is refused and nothing
has happened, or it is the chunks or the one command that it stands for.
-/

namespace BootHost

open Memory

/-- One call on an access. -/
inductive Call where
  /-- A chunked write of whatever a source yields. -/
  | writeAll (source : Source)
  | perform (storage : Storage) (action : Action)

/-- The call writes in chunks. -/
def Call.isChunked : Call → Bool
  | .writeAll _ | .perform _ (.writeFile _) => true
  | .perform _ _ => false

/-- A command that is handed to the line, and what comes of it. -/
structure Exchange where
  /-- The command carries a chunk of a chunked write. -/
  isChunk : Bool
  command : Command
  /-- The answer, if the board did what was asked. -/
  answer? : Option Bytes

namespace Exchange

/-- How far an exchange moves the cursor: over its chunk, if that was acknowledged. -/
def step (x : Exchange) : Nat :=
  if x.isChunk = true ∧ x.answer?.isSome = true then x.command.payload.length else 0

/-- How far exchanges move the cursor together. -/
def travelled (said : List Exchange) : Nat := (said.map step).sum

@[simp] theorem travelled_nil : travelled [] = 0 := rfl

@[simp] theorem travelled_cons (x : Exchange) (said : List Exchange) :
    travelled (x :: said) = x.step + travelled said := rfl

@[simp] theorem travelled_append (said said' : List Exchange) :
    travelled (said ++ said') = travelled said + travelled said' := by
  simp [travelled]

end Exchange

/-- The line failed to carry bytes. -/
def Fault.isLineFailure : Fault → Bool
  | .transport _ => true
  | _ => false

theorem Fault.isLineFailure_of_isUsage {e : Fault} (usage : e.isUsage = true) : e.isLineFailure = false := by
  cases e with
  | transport cause => cases usage
  | _ => rfl

/-- The frame that a note shows. -/
def Note.frame? : Note → Option Bytes
  | .frame bytes => some bytes
  | _ => none

namespace Line

variable {σ : Type}

/-- The frames that were handed to the line, in order. -/
def handed (l : Line σ) : List Bytes := l.notes.reverse.filterMap Note.frame?

theorem handed_note {n : Note} (h : n.frame? = none) (l : Line σ) : (l.note n).handed = l.handed := by
  simp [handed, note, h]

theorem handed_note_frame (bytes : Bytes) (l : Line σ) :
    (l.note (.frame bytes)).handed = l.handed ++ [bytes] := by
  simp [handed, note, Note.frame?]

variable [Port σ] {l l' : Line σ}

theorem handed_of_read {n : Nat} {r : Except DeviceFault Bytes} (h : l.read n = (r, l')) :
    l'.handed = l.handed := by
  unfold read at h
  split at h <;> exact (Prod.mk.inj h).2 ▸ rfl

theorem handed_of_write {bytes : Bytes} {r : Except DeviceFault Nat} (h : l.write bytes = (r, l')) :
    l'.handed = l.handed := by
  unfold write at h
  split at h <;> exact (Prod.mk.inj h).2 ▸ rfl

theorem handed_of_flush {r : Except DeviceFault Unit} (h : l.flush = (r, l')) : l'.handed = l.handed := by
  unfold flush at h
  split at h <;> exact (Prod.mk.inj h).2 ▸ rfl

theorem handed_of_send {bytes : Bytes} {r : Except DeviceFault Unit} (h : l.send bytes = (r, l')) :
    l'.handed = l.handed := by
  fun_induction send bytes l with
  | case1 l => exact handed_of_flush h
  | case2 l b rest l₁ hw => exact (Prod.mk.inj h).2 ▸ handed_of_write hw
  | case3 l b rest k l₁ hw ih => rw [ih h, handed_note rfl, handed_of_write hw]
  | case4 l b rest e l₁ hw _ ih => rw [ih h, handed_of_write hw]
  | case5 l b rest e l₁ hw _ => exact (Prod.mk.inj h).2 ▸ handed_of_write hw

theorem handed_of_collect {total need : Nat} {got : Bytes} {r : Except DeviceFault Bytes}
    (h : collect total got need l = (r, l')) : l'.handed = l.handed := by
  fun_induction collect total got need l with
  | case1 got l => exact (Prod.mk.inj h).2 ▸ rfl
  | case2 got need l _ l₁ hr => exact (Prod.mk.inj h).2 ▸ handed_of_read hr
  | case3 got need l _ b bytes l₁ hr ih => rw [ih h, handed_note rfl, handed_of_read hr]
  | case4 got need l _ e l₁ hr _ ih => rw [ih h, handed_of_read hr]
  | case5 got need l _ e l₁ hr _ => exact (Prod.mk.inj h).2 ▸ handed_of_read hr

theorem handed_of_receiveByte {r : Except DeviceFault UInt8} (h : l.receiveByte = (r, l')) :
    l'.handed = l.handed := by
  unfold receiveByte receive at h
  split at h <;> rename_i heard <;> exact (Prod.mk.inj h).2 ▸ handed_of_collect heard

theorem handed_of_issue {c : Command} {r : Except Fault Unit} (h : l.issue c = (r, l')) :
    l'.handed = l.handed ++ [c.encode] := by
  unfold issue at h
  split at h <;> rename_i sent <;> obtain ⟨-, rfl⟩ := Prod.mk.inj h <;>
    rw [handed_of_send sent, handed_note_frame, handed_note rfl]

theorem handed_of_awaitAck {stage : Stage} {r : Except Fault Unit} (h : l.awaitAck stage = (r, l')) :
    l'.handed = l.handed := by
  unfold awaitAck at h
  split at h <;> rename_i heard
  · exact (Prod.mk.inj h).2 ▸ handed_of_receiveByte heard
  · split at h <;> exact (Prod.mk.inj h).2 ▸ handed_of_receiveByte heard

theorem handed_of_command {c : Command} {stage : Stage} {r : Except Fault Unit}
    (h : l.command c stage = (r, l')) : l'.handed = l.handed ++ [c.encode] := by
  unfold command at h
  split at h <;> rename_i sent
  · exact (Prod.mk.inj h).2 ▸ handed_of_issue sent
  · rw [handed_of_awaitAck h, handed_of_issue sent]

theorem handed_of_fetch {length : UInt32} {address : UInt64} {r : Except Fault Bytes}
    (h : l.fetch length address = (r, l')) :
    l'.handed = l.handed ++ [(Command.readBlock length address).encode] := by
  unfold fetch receive at h
  split at h <;> rename_i sent
  · exact (Prod.mk.inj h).2 ▸ handed_of_issue sent
  · split at h <;> rename_i heard <;> obtain ⟨-, rfl⟩ := Prod.mk.inj h
    · rw [handed_of_collect heard, handed_of_issue sent]
    · rw [handed_note rfl, handed_of_collect heard, handed_of_issue sent]

end Line

namespace Memory.Access

variable {σ : Type} {a : Access σ} {e : Fault}

theorem not_lineFailure_of_here (h : a.here = .error e) : e.isLineFailure = false := by
  unfold here at h
  split at h
  · simp at h
  · exact Except.error.inj h ▸ rfl

theorem not_lineFailure_of_place {length : Nat} (h : a.place length = .error e) : e.isLineFailure = false :=
  Fault.isLineFailure_of_isUsage (isUsage_of_place h)

end Memory.Access

variable {σ : Type} [Port σ]

/-- Exchanges take place on a wire, one after the other, and nothing else does. -/
inductive Wire.Carries : List Exchange → Wire σ → Wire σ → Prop where
  | nil {w : Wire σ} : Carries [] w w
  | answered {isChunk : Bool} {c : Command} {answer : Bytes} {said : List Exchange} {w w' w'' : Wire σ} :
      w.Answers c answer w' → Carries said w' w'' → Carries (⟨isChunk, c, some answer⟩ :: said) w w''
  | broken {isChunk : Bool} {c : Command} {said : List Exchange} {w w' w'' : Wire σ} :
      w.Breaks c w' → Carries said w' w'' → Carries (⟨isChunk, c, none⟩ :: said) w w''

theorem Wire.Carries.append {said said' : List Exchange} {w w' w'' : Wire σ}
    (h : Carries said w w') (h' : Carries said' w' w'') : Carries (said ++ said') w w'' := by
  induction h with
  | nil => exact h'
  | answered answers _ ih => exact .answered answers (ih h')
  | broken breaks _ ih => exact .broken breaks (ih h')

namespace Memory.Access

/-- One call on an access. -/
def call (c : Call) (a : Access σ) : Except Fault Outcome × Access σ :=
  match c with
  | .writeAll source =>
    match a.writeAll source with
    | (.ok w, _, a') => (.ok (.written w), a')
    | (.error e, _, a') => (.error e, a')
  | .perform storage action => a.perform storage action

/-- The access after some calls, whatever came of them. -/
def after : List Call → Access σ → Access σ
  | [], a => a
  | c :: rest, a => after rest (a.call c).2

/-- An access hands exchanges to its line, and nothing else. -/
structure Hands (said : List Exchange) (a a' : Access σ) : Prop where
  carried : Wire.Carries said a.wire a'.wire
  handed : a'.conn.line.handed = a.conn.line.handed ++ said.map fun x => x.command.encode

variable {a a' a'' : Access σ} {said said' : List Exchange}

theorem Hands.nothing (hw : a.wire = a'.wire) (hh : a'.conn.line.handed = a.conn.line.handed) :
    Hands [] a a' where
  carried := hw ▸ .nil
  handed := by rw [hh, List.map_nil, List.append_nil]

theorem Hands.append (h : Hands said a a') (h' : Hands said' a' a'') : Hands (said ++ said') a a'' where
  carried := h.carried.append h'.carried
  handed := by rw [h'.handed, h.handed, List.map_append, List.append_assoc]

/-- What answers a command that has to be acknowledged, when this was its result. -/
def ackOf : Except Fault Unit → Option Bytes
  | .ok () => some [Protocol.ack]
  | .error _ => none

theorem command_hands {c : Command} {stage : Stage} {r : Except Fault Unit} (isChunk : Bool)
    (hc : c.tag ≠ .read) (h : a.command c stage = (r, a')) : Hands [⟨isChunk, c, ackOf r⟩] a a' := by
  unfold command at h
  rcases hl : a.conn.line.command c stage with ⟨r', l⟩
  rw [hl] at h
  obtain ⟨rfl, rfl⟩ := Prod.mk.inj h
  constructor
  · cases r' with
    | ok _ => exact .answered (Line.answers_of_command_ok hc hl) .nil
    | error e => exact .broken (Line.breaks_of_command_error hc hl).1 .nil
  · exact Line.handed_of_command hl

theorem writeBlock_hands {address : UInt64} {p : Payload} {r : Except Fault Unit} (isChunk : Bool)
    (h : a.writeBlock address p.bytes = (r, a')) : Hands [⟨isChunk, .write address p, ackOf r⟩] a a' := by
  rw [writeBlock_eq] at h
  exact command_hands isChunk (by simp [Command.tag]) h

theorem fetch_hands {length : UInt32} {address : UInt64} {r : Except Fault Bytes} {l : Line σ}
    (h : a.conn.line.fetch length address = (r, l)) :
    Hands [⟨false, .readBlock length address, r.toOption⟩] a (a.withLine l) := by
  constructor
  · cases r with
    | ok bytes => exact .answered (Line.answers_of_fetch_ok h) .nil
    | error e => exact .broken (Line.breaks_of_fetch_error h).1 .nil
  · exact Line.handed_of_fetch h

/-- A write of a file is refused before anything happens, or is a chunked write of what the file
brings, with the progress beside it. -/
theorem writeFile_cases {storage : Storage} {path : String} {r : Except Fault Written}
    (h : a.writeFile storage path = (r, a')) :
    (a' = a ∧ ∃ e, r = .error e ∧ e.isLineFailure = false) ∨
      ∃ source p p' rest b, ({ a with progress := p } : Access σ).writeAll source = (r, rest, b) ∧
        a' = { b with progress := p' } := by
  cases opens : storage path with
  | error cause =>
    obtain ⟨rfl, rfl⟩ := Prod.mk.inj ((writeFile_of_unopened opens a).symm.trans h)
    exact .inl ⟨rfl, _, rfl, rfl⟩
  | ok file =>
    cases accepted : a.checkSize file.size with
    | error e =>
      obtain ⟨size, -, misplaced⟩ := checkSize_eq_error_iff.1 accepted
      obtain ⟨rfl, rfl⟩ := Prod.mk.inj ((writeFile_of_refused opens accepted).symm.trans h)
      exact .inl ⟨rfl, _, rfl, not_lineFailure_of_place misplaced⟩
    | ok _ =>
      rcases hw : (a.counting file.size).writeAll file.content with ⟨r', rest, b⟩
      obtain ⟨rfl, rfl⟩ := Prod.mk.inj ((writeFile_of_accepted opens accepted hw).symm.trans h)
      exact .inr ⟨file.content, _, _, rest, b, hw, rfl⟩

/-- How a call ends that is one command: with the fault of the command, or with a note. -/
inductive Ends {α : Type} : Except Fault Unit × Access σ → Except Fault α × Access σ → Prop where
  | failed {e : Fault} {b : Access σ} : Ends (.error e, b) (.error e, b)
  | done {result : α} {b : Access σ} : Ends (.ok (), b) (.ok result, b.note .done)

/-- A write of a value is refused before anything happens, or is one command. -/
theorem writeValue_cases {value : UInt64} {length : Nat} {x : Except Fault Written × Access σ}
    (h : a.writeValue value length = x) :
    (x.2 = a ∧ ∃ e, x.1 = .error e ∧ e.isLineFailure = false) ∨
      ∃ address next n, ∃ p : Payload, (1 ≤ p.bytes.length ∧ p.bytes.length ≤ 8) ∧
        a.place p.bytes.length = .ok (address, next) ∧ n.frame? = none ∧
        Ends ((a.note n).writeBlock address p.bytes) x := by
  unfold writeValue Command.valueBytes at h
  by_cases short : 1 ≤ length ∧ length ≤ 8
  · have size : (BigEndian.encode length value.toNat).length = length := BigEndian.length_encode ..
    rw [if_pos short] at h
    dsimp only at h
    split at h
    · rename_i misplaced
      exact .inl (h ▸ ⟨rfl, _, rfl, not_lineFailure_of_place misplaced⟩)
    · rename_i address next hp
      let p : Payload := ⟨_, Command.countable_of_value value short.2⟩
      refine .inr ⟨address, next, .writingValue address value length, p, ?_, ?_, rfl, ?_⟩
      · rwa [size]
      · rwa [size]
      · split at h <;> rename_i hw <;> rw [hw, ← h]
        · exact .failed
        · exact .done
  · rw [if_neg short] at h
    exact .inl (h ▸ ⟨rfl, _, rfl, rfl⟩)

/-- A read is refused without an address, or is one command. -/
theorem read_cases {length : UInt32} {x : Except Fault (UInt64 × Bytes) × Access σ} (h : a.read length = x) :
    (x.2 = a ∧ ∃ e, x.1 = .error e ∧ e.isLineFailure = false) ∨
      ∃ address r l, a.cursor = some address ∧
        (a.conn.line.note (.reading address length)).fetch length address = (r, l) ∧
        x = (r.map fun bytes => (address, bytes), a.withLine l) := by
  unfold read here at h
  cases here : a.cursor with
  | none =>
    rw [here] at h
    exact .inl (h ▸ ⟨rfl, _, rfl, rfl⟩)
  | some address =>
    rw [here] at h
    dsimp only at h
    obtain ⟨r, l, hl⟩ : ∃ r l,
        (a.conn.line.note (.reading address length)).fetch length address = (r, l) := ⟨_, _, rfl⟩
    rw [hl] at h
    refine .inr ⟨address, r, l, rfl, hl, ?_⟩
    cases r <;> exact h.symm

/-- A jump is refused without an address, or is one command. -/
theorem jump_cases {x : Except Fault UInt64 × Access σ} (h : a.jump = x) :
    (x.2 = a ∧ ∃ e, x.1 = .error e ∧ e.isLineFailure = false) ∨
      ∃ address, a.cursor = some address ∧
        Ends ((a.note (.jumping address)).command (.jumpTo address) .jump) x := by
  unfold jump Access.here at h
  cases here : a.cursor with
  | none =>
    rw [here] at h
    exact .inl (h ▸ ⟨rfl, _, rfl, rfl⟩)
  | some address =>
    rw [here] at h
    dsimp only at h
    refine .inr ⟨address, rfl, ?_⟩
    split at h <;> rename_i hw <;> rw [hw, ← h]
    · exact .failed
    · exact .done

end Memory.Access

end BootHost
