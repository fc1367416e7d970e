import BootHost.Proofs.Chunks
import BootHost.Proofs.Life

/-!
# What a run may send

How many bytes a run can put on the line at most, told from what it is asked for (`Setup.demand`): the magic, and
for each action the frames of its commands. The content of a file may be cut into chunks in any way, so each of
its bytes may come with a frame of its own. No port takes more than that, whatever it does (`Connection.run_takes`).
-/

namespace BootHost

open Memory

/-- The most bytes of a frame that are not payload. -/
def Command.frameWidth : Nat := 1 + BlockHeader.width

theorem Command.length_encode_le (c : Command) : c.encode.length ≤ frameWidth + c.payload.length := by
  cases c with
  | read h => simp [encode, header, payload, frameWidth, Nat.add_comm]
  | write address p =>
    simp only [encode, header, payload, frameWidth, List.length_cons, List.length_append,
      BlockHeader.length_encode]
    omega
  | jump h => simp [encode, header, payload, frameWidth, BlockHeader.width, JumpHeader.width]

/-- The bytes that an action may send. -/
def Action.demand (storage : Storage) : Action → Nat
  | .writeFile path =>
    match storage path with
    | .ok file => (Command.frameWidth + 1) * (Source.bytes file.content).length
    | .error _ => 0
  | .writeValue _ => Command.frameWidth + 8
  | .read _ => Command.frameWidth
  | .jump => Command.frameWidth

/-- The bytes that actions may send. -/
def demandOf (storage : Storage) (actions : List Action) : Nat := (actions.map (Action.demand storage)).sum

/-- The bytes that a run may send. -/
def Setup.demand (storage : Storage) (setup : Setup) : Nat :=
  Protocol.magic.length + demandOf storage setup.request.actions

variable {σ : Type}

/-- So many bytes are taken at most. -/
def Wire.Takes (most : Nat) (w w' : Wire σ) : Prop :=
  w'.traffic.taken.length ≤ w.traffic.taken.length + most

namespace Wire.Takes

variable {w w' w'' : Wire σ} {most most' : Nat}

theorem nothing (most : Nat) (w : Wire σ) : Takes most w w := Nat.le_add_right ..

theorem append (h : Takes most w w') (h' : Takes most' w' w'') : Takes (most + most') w w'' := by
  unfold Takes at *
  omega

theorem mono (h : Takes most w w') (le : most ≤ most') : Takes most' w w' := Nat.le_trans h (by omega)

end Wire.Takes

variable [Port σ]

/-- An exchange takes no more than its frame. -/
theorem Wire.Carries.takes {x : Exchange} {w w' : Wire σ} (h : Carries [x] w w') :
    w.Takes (Command.frameWidth + x.command.payload.length) w' := by
  obtain ⟨cuts, fronts, taken⟩ := h.taken
  obtain ⟨cut, nothing, front, behind, rfl⟩ := List.forall₂_cons_left_iff.1 fronts
  obtain rfl := List.forall₂_nil_left_iff.1 behind
  have frame := x.command.length_encode_le
  have short := front.length_le
  unfold Takes
  rw [taken, List.flatten_singleton, List.length_append]
  omega

namespace Memory.Access

variable {a a' : Access σ}

/-- A call that is one command takes no more than its frame. -/
theorem Ends.takes {α : Type} {c : Command} {stage : Stage} {n : Note} {x : Except Fault α × Access σ}
    (other : c.tag ≠ .read) (h : Ends ((a.note n).command c stage) x) :
    a.wire.Takes (Command.frameWidth + c.payload.length) x.2.wire := by
  generalize hw : (a.note n).command c stage = y at h
  obtain ⟨r, b⟩ := y
  have taken : a.wire.Takes (Command.frameWidth + c.payload.length) b.wire :=
    (command_hands false other hw).carried.takes
  cases h with
  | failed => exact taken
  | done => exact taken

/-- A chunk has a byte at least, so there are no more frames than bytes. -/
theorem chunk_takes {source rest : Source} {b : UInt8} {bytes : Bytes} {address : UInt64} {next : Option UInt64}
    {n : Note} {r : Except Fault Unit} (hf : source.fill a.chunkSize.size = (.ok (b :: bytes), rest))
    (hp : a.place (b :: bytes).length = .ok (address, next))
    (hw : (a.note n).writeBlock address (b :: bytes) = (r, a')) :
    a.wire.Takes ((Command.frameWidth + 1) * (b :: bytes).length) a'.wire := by
  obtain ⟨p, data, -⟩ := payload_of_fill hf hp
  rw [← data] at hw ⊢
  have taken : a.wire.Takes (Command.frameWidth + p.bytes.length) a'.wire :=
    (writeBlock_hands false hw).carried.takes
  apply taken.mono
  have some : 1 ≤ p.bytes.length := by simp [data]
  rw [Nat.add_mul, Nat.one_mul]
  exact Nat.add_le_add_right (Nat.le_mul_of_pos_right _ some) _

theorem writeChunks_takes (w : Written) (source : Source) (a : Access σ) :
    a.wire.Takes ((Command.frameWidth + 1) * (Source.bytes source).length) (a.writeChunks w source).2.2.wire := by
  fun_induction writeChunks w source a with
  | case1 => exact .nothing _ _
  | case2 => exact .nothing _ _
  | case3 => exact .nothing _ _
  | case4 w source a b bytes rest hf address next hp e a' hw =>
    apply (chunk_takes hf hp hw).mono
    rw [Source.bytes_of_fill hf, List.length_append]
    exact Nat.mul_le_mul_left _ (Nat.le_add_right ..)
  | case5 w source a b bytes rest hf address next hp a' hw ih =>
    rw [Source.bytes_of_fill hf, List.length_append, Nat.mul_add]
    exact (chunk_takes hf hp hw).append ih

theorem writeAll_takes (source : Source) (a : Access σ) :
    a.wire.Takes ((Command.frameWidth + 1) * (Source.bytes source).length) (a.writeAll source).2.2.wire := by
  unfold writeAll
  split
  · exact .nothing _ _
  · exact writeChunks_takes _ _ a

theorem writeFile_takes (storage : Storage) (path : String) (a : Access σ) :
    a.wire.Takes ((Action.writeFile path).demand storage) (a.writeFile storage path).2.wire := by
  unfold Action.demand
  cases opens : storage path with
  | error e =>
    rw [writeFile_of_unopened opens]
    exact .nothing _ _
  | ok file =>
    dsimp only
    rw [opens]
    cases accepted : a.checkSize file.size with
    | error e =>
      rw [writeFile_of_refused opens accepted]
      exact .nothing _ _
    | ok _ =>
      have written := writeAll_takes file.content (a.counting file.size)
      rw [writeFile_of_accepted opens accepted rfl]
      exact written

theorem writeValue_takes (value : UInt64) (length : Nat) (a : Access σ) :
    a.wire.Takes (Command.frameWidth + 8) (a.writeValue value length).2.wire := by
  rcases writeValue_cases (rfl : a.writeValue value length = _) with
    ⟨same, -⟩ | ⟨address, next, n, p, few, -, -, ends⟩
  · rw [same]
    exact .nothing _ _
  · rw [writeBlock_eq] at ends
    exact (ends.takes (by simp [Command.tag])).mono (Nat.add_le_add_left few.2 _)

theorem read_takes (length : UInt32) (a : Access σ) : a.wire.Takes Command.frameWidth (a.read length).2.wire := by
  rcases read_cases (rfl : a.read length = _) with ⟨same, -⟩ | ⟨address, r, l, -, hl, same⟩
  · rw [same]
    exact .nothing _ _
  · rw [same]
    exact (fetch_hands (a := a.note (.reading address length)) hl).carried.takes

theorem jump_takes (a : Access σ) : a.wire.Takes Command.frameWidth a.jump.2.wire := by
  rcases jump_cases (rfl : a.jump = _) with ⟨same, -⟩ | ⟨address, -, ends⟩
  · rw [same]
    exact .nothing _ _
  · exact ends.takes (by simp [Command.tag, Command.jumpTo])

theorem perform_takes (storage : Storage) (action : Action) (a : Access σ) :
    a.wire.Takes (action.demand storage) (a.perform storage action).2.wire := by
  cases action with
  | writeFile path =>
    have written := writeFile_takes storage path a
    unfold perform
    dsimp only
    split <;> rename_i hw <;> rw [hw] at written <;> exact written
  | writeValue i =>
    have written := writeValue_takes i.value i.length a
    unfold perform
    dsimp only
    split <;> rename_i hw <;> rw [hw] at written <;> exact written
  | read length =>
    have read := read_takes length a
    unfold perform
    dsimp only
    split <;> rename_i hr <;> rw [hr] at read <;> exact read
  | jump =>
    have jumped := jump_takes a
    unfold perform
    dsimp only
    split <;> rename_i hj <;> rw [hj] at jumped <;> exact jumped

theorem performAll_takes (storage : Storage) (actions : List Action) (a : Access σ) :
    a.wire.Takes (demandOf storage actions) (a.performAll storage actions).2.wire := by
  induction actions generalizing a with
  | nil => exact .nothing _ _
  | cons action rest ih =>
    have first := perform_takes storage action a
    unfold performAll
    split
    · rename_i outcome b hp
      rw [hp] at first
      exact first.append (ih b)
    · rename_i e b hp
      rw [hp] at first
      split
      · have later := ih (b.note (.skipped action.operation e))
        exact first.append later
      · exact first.mono (Nat.le_add_right ..)

end Memory.Access

/-- A greeting takes no more than the magic. -/
theorem Line.greet_takes {start : Start} {r : Except Fault Unit} {l l' : Line σ} (h : l.greet start = (r, l')) :
    l.wire.Takes Protocol.magic.length l'.wire := by
  unfold Wire.Takes
  cases r with
  | ok _ =>
    rw [(greets_of_greet_ok h).taken, List.length_append]
  | error e =>
    obtain ⟨part, front, taken⟩ := (rebuffs_of_greet_error h).taken
    rw [taken, List.length_append]
    exact Nat.add_le_add_left front.length_le _

namespace Connection

variable {conn conn' : Connection σ}

theorem connect_takes {start : Start} {r : Except Fault Unit} (h : conn.connect start = (r, conn')) :
    conn.line.wire.Takes Protocol.magic.length conn'.line.wire := by
  rcases connect_cases h with ⟨-, greeted, -⟩ | ⟨-, -, rfl⟩
  · exact Line.greet_takes greeted
  · exact .nothing _ _

/-- No port takes more of a run than the run may send. -/
theorem run_takes (storage : Storage) (setup : Setup) (conn : Connection σ) :
    conn.line.wire.Takes (setup.demand storage) (conn.run storage setup).2.line.wire := by
  rcases hc : conn.connect (.ofSkipWait setup.skipWait) with ⟨e | _, conn'⟩ <;>
    have greeting := connect_takes hc
  · rw [run_of_connect_error hc]
    exact greeting.mono (Nat.le_add_right ..)
  · obtain ⟨a, line, -, -, run⟩ := run_of_connect_ok storage hc
    have start : a.wire = conn'.line.wire := by rw [Access.wire, line, Line.wire_note]
    have requested := Access.performAll_takes storage setup.request.actions a
    rw [start] at requested
    rw [run]
    exact greeting.append requested

end Connection

end BootHost
