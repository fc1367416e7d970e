import BootHost.Port.Endless
import BootHost.Proofs.Dispatch
import BootHost.Proofs.Session.Cursor
import BootHost.Proofs.Tape.Dialogue
import BootHost.Proofs.Tape.Ports

/-!
# Usage faults leave the line alone

A usage fault is found before anything is sent. The chunked write is the one call that can find one
late, behind chunks that were acknowledged; there it becomes the cause of a partial write, which is
no usage fault (`writeChunks_usage`). A payload that was cut to the chunk size always fits into one
command, so no command is refused when its turn has come. Hence the report skips only what never
touched the line, and what touched it without success is told as a failure.

What a call counts, in its summary or in a partial write, is a number. It is a 64-bit word as well, but
for a write over the whole memory (`Within.isWord`, by `writeAll_within`, `writeFile_within` and
`writeValue_within`).
-/

namespace BootHost.Memory.Access

variable {σ : Type}

/-- An access is as it was, but for its progress. -/
structure Untouched (a a' : Access σ) : Prop where
  conn : a'.conn = a.conn
  cursor : a'.cursor = a.cursor
  chunkSize : a'.chunkSize = a.chunkSize

theorem Untouched.refl (a : Access σ) : Untouched a a := ⟨rfl, rfl, rfl⟩

theorem Untouched.same {a a' : Access σ} (h : Untouched a a') : Same a a' where
  wire := by rw [wire, wire, h.conn]
  cursor := h.cursor.symm
  chunkSize := h.chunkSize.symm

/-- What stops a chunked write is a usage fault only if nothing was written yet. -/
theorem stopped_usage {w : Written} {e : Fault} (h : (stopped w e).isUsage = true) : w.chunks = 0 := by
  unfold stopped at h
  split at h
  · cases h
  · omega

variable [Port σ] {a a' : Access σ} {e : Fault}

/-- A usage fault of a chunked write comes ahead of its first chunk. -/
theorem writeChunks_usage {w : Written} {source rest : Source}
    (h : a.writeChunks w source = (.error e, rest, a')) (usage : e.isUsage = true) :
    w.chunks = 0 ∧ a' = a := by
  -- behind the first round some chunk is counted, and `stopped` makes a partial write of the fault
  fun_induction writeChunks w source a with
  | case1 w source a cause =>
    obtain ⟨rfl, -, -⟩ : .input cause = e ∧ _ := by simpa using h
    cases usage
  | case2 => simp at h
  | case3 w source a b bytes left hf cause hp =>
    obtain ⟨rfl, -, rfl⟩ : stopped w cause = e ∧ _ ∧ a = a' := by simpa using h
    exact ⟨stopped_usage usage, rfl⟩
  | case4 w source a b bytes left hf address next hp cause a₁ hw =>
    obtain ⟨rfl, -, -⟩ : cause = e ∧ _ := by simpa using h
    obtain ⟨p, hb, -⟩ := payload_of_fill hf hp
    rw [← hb] at hw
    simp [writeBlock_error hw] at usage
  | case5 w source a b bytes left hf address next hp a₁ hw ih =>
    obtain ⟨none, -⟩ := ih h
    simp [Written.add] at none

theorem writeAll_usage {source rest : Source} (h : a.writeAll source = (.error e, rest, a'))
    (usage : e.isUsage = true) : a' = a := by
  unfold writeAll at h
  split at h
  · exact (Prod.mk.inj (Prod.mk.inj h).2).2.symm
  · exact (writeChunks_usage h usage).2

theorem writeFile_usage {storage : Storage} {path : String}
    (h : a.writeFile storage path = (.error e, a')) (usage : e.isUsage = true) : Untouched a a' := by
  rcases writeFile_cases h with ⟨rfl, -⟩ | ⟨source, p, p', rest, b, hw, rfl⟩
  · exact .refl a'
  · obtain rfl := writeAll_usage hw usage
    exact ⟨rfl, rfl, rfl⟩

theorem writeValue_usage {value : UInt64} {length : Nat}
    (h : a.writeValue value length = (.error e, a')) (usage : e.isUsage = true) : Untouched a a' := by
  rcases writeValue_cases h with ⟨rfl, -⟩ | ⟨address, next, n, p, -, -, -, ends⟩
  · exact .refl a'
  · generalize hw : (a.note n).writeBlock address p.bytes = y at ends
    cases ends
    simp [writeBlock_error hw] at usage

theorem read_usage {length : UInt32} (h : a.read length = (.error e, a')) (usage : e.isUsage = true) :
    Untouched a a' := by
  rcases read_cases h with ⟨rfl, -⟩ | ⟨address, r, l, -, hl, same⟩
  · exact .refl a'
  · cases r with
    | ok bytes => simp [Except.map] at same
    | error cause =>
      obtain ⟨rfl, -⟩ : e = cause ∧ _ := by simpa [Except.map] using same
      simp [(Line.breaks_of_fetch_error hl).2] at usage

theorem jump_usage (h : a.jump = (.error e, a')) (usage : e.isUsage = true) : Untouched a a' := by
  rcases jump_cases h with ⟨rfl, -⟩ | ⟨address, -, ends⟩
  · exact .refl a'
  · generalize hw : (a.note (.jumping address)).command (.jumpTo address) .jump = y at ends
    cases ends
    simp [command_error (by simp [Command.tag, Command.jumpTo]) hw] at usage

theorem perform_usage {storage : Storage} {action : Action} (h : a.perform storage action = (.error e, a'))
    (usage : e.isUsage = true) : Untouched a a' := by
  unfold perform at h
  cases action <;> dsimp only at h <;> split at h <;> try simp at h
  all_goals obtain ⟨rfl, rfl⟩ := h
  · exact writeFile_usage ‹_› usage
  · exact writeValue_usage ‹_› usage
  · exact read_usage ‹_› usage
  · exact jump_usage ‹_› usage

/-- No call of a session that ends with a usage fault has touched the connection or the cursor. -/
theorem call_usage {c : Call} (h : a.call c = (.error e, a')) (usage : e.isUsage = true) :
    Untouched a a' := by
  cases c with
  | writeAll source =>
    unfold call at h
    dsimp only at h
    split at h
    · simp at h
    · rename_i hw
      obtain ⟨rfl, rfl⟩ : _ = e ∧ _ = a' := by simpa using h
      exact writeAll_usage hw usage ▸ .refl a
  | perform storage action => exact perform_usage h usage

/-- A usage fault means that nothing happened on the line, whatever the port is: no port can tell
that there was a call, not even one that counts the calls made on it. So an operation that is
skipped has used nothing of the line, and one that did, without success, is told as a failure. The
summaries and partial writes among the results count in numbers, as bounded by `writeAll_within`. -/
theorem usage_leaves_line_alone (a : Access σ) :
    (∀ c e a', a.call c = (.error e, a') → e.kind = .usage → Untouched a a') ∧
    ∀ storage request i entry, (a.fulfil storage request).1.entries[i]? = some entry →
      ∃ action, request.actions[i]? = some action ∧ entry.operation = action.operation ∧
        (∀ e, entry.outcome = .skipped e →
          Same (a.past storage request.actions i) (a.past storage request.actions (i + 1))) ∧
        ∀ e b, (a.past storage request.actions i).perform storage action = (.error e, b) →
          b.wire ≠ (a.past storage request.actions i).wire → entry.outcome = .failed e := by
  constructor
  · intro c e a' h usage
    exact call_usage h (Fault.isUsage_iff.2 usage)
  · intro storage request i entry at_i
    obtain ⟨action, requested, attempted⟩ :=
      (performAll_dispatch storage request.actions a).attempted at_i
    refine ⟨action, requested, attempted.operation, ?_, ?_⟩
    · intro e skipped
      obtain ⟨b, performed, usage, same⟩ := attempted.of_skipped skipped
      have before := (perform_usage performed (Fault.isUsage_iff.2 usage)).same
      exact before.trans same
    · intro e b performed used
      rw [attempted.of_error performed, if_neg]
      intro usage
      exact used (perform_usage performed usage).same.wire.symm

/-- An access on the last address, over a port that counts its calls. -/
def onTop : Access Endless where
  conn :=
    { line :=
        { port :=
            { reads := fun _ => .data []
              writes := fun _ => .upTo 1
              flushes := fun _ => .ok ()
              left := 9 } }
      phase := .established }
  established := rfl
  cursor := some 0xFFFFFFFFFFFFFFFF
  chunkSize := .clamp 2

/-- An access to a board that refuses what it is told first. -/
def refusing : Access Queued where
  conn := { line := { port := { incoming := [Protocol.nack] } }, phase := .established }
  established := rfl
  cursor := some 0x40

/-- A refused jump has used the line. -/
theorem perform_jump_refusing (storage : Storage) :
    ∃ b, refusing.perform storage .jump = (.error (.refused .jump .nack), b) ∧
      b.wire ≠ refusing.wire := by
  have follows : (refusing.conn.line.note (.jumping 0x40)).Follows ⟨[Protocol.nack], none, {}⟩ :=
    ⟨Queued.plays _, rfl⟩
  obtain ⟨r, l, t, hl, ht, same⟩ := (Line.command_follows (.jumpTo 0x40) .jump follows).cases
  have told : r = .error (.refused .jump .nack) := congrArg Prod.fst ht.symm
  have heard : t.traffic.delivered = 1 := congrArg (fun x => x.2.traffic.delivered) ht.symm
  refine ⟨(refusing.note (.jumping 0x40)).withLine l, ?_, ?_⟩
  · have sent : (refusing.note (.jumping 0x40)).command (.jumpTo 0x40) .jump =
        (.error (.refused .jump .nack), (refusing.note (.jumping 0x40)).withLine l) := by
      unfold command
      rw [show (refusing.note (.jumping 0x40)).conn.line.command (.jumpTo 0x40) .jump = (r, l) from hl, told]
    unfold perform jump
    dsimp only [here, refusing]
    dsimp only [refusing] at sent
    rw [sent]
  · intro unused
    have delivered : l.traffic.delivered = 0 := congrArg (fun w => w.traffic.delivered) unused
    rw [same.traffic, heard] at delivered
    cases delivered

/-- A chunk that does not fit is refused without a call on the port; so is a value in a request, which
is skipped. A jump that the board refuses has used the line, and is told as a failure. -/
theorem usage_leaves_line_alone_on_top :
    (∃ e a', onTop.call (.writeAll [.data [1, 2, 3]]) = (.error e, a') ∧ e.kind = .usage ∧
      a'.conn.line.port.made = 0 ∧ Untouched onTop a') ∧
    Same onTop (onTop.past noFiles [.writeValue ⟨7, 2⟩] 1) ∧
    ∃ entry, (refusing.fulfil noFiles { jump := true }).1.entries[0]? = some entry ∧
      entry.outcome = .failed (.refused .jump .nack) := by
  refine ⟨?_, ?_, ?_⟩
  · have filled : Source.fill onTop.chunkSize.size [.data [1, 2, 3]] = (.ok [1, 2], [.data [3]]) := by
      simp [Source.fill, Source.gather, onTop, ChunkSize.clamp, Protocol.maxChunk]
    have refused : onTop.call (.writeAll [.data [1, 2, 3]]) =
        (.error (.addressOverflow 0xFFFFFFFFFFFFFFFF 2), onTop) := by
      have begun : onTop.writeAll [.data [1, 2, 3]] =
        onTop.writeChunks ⟨0xFFFFFFFFFFFFFFFF, 0, 0⟩ [.data [1, 2, 3]] := rfl
      unfold call
      dsimp only
      rw [begun, writeChunks_of_cons filled]
      rfl
    have untouched := (usage_leaves_line_alone onTop).1 _ _ _ refused rfl
    exact ⟨_, _, refused, rfl, rfl, untouched⟩
  · obtain ⟨action, -, -, skipped, -⟩ := (usage_leaves_line_alone onTop).2 noFiles
      { writeValue := some ⟨7, 2⟩ } 0 ⟨.writeValue, .skipped (.addressOverflow 0xFFFFFFFFFFFFFFFF 2)⟩ rfl
    exact skipped _ rfl
  · obtain ⟨b, refused, used⟩ := perform_jump_refusing noFiles
    have entries : ∃ entry, (refusing.fulfil noFiles { jump := true }).1.entries[0]? =
        some entry := by
      rcases first : refusing.attempt noFiles .jump with ⟨entry, a'⟩
      refine ⟨entry, ?_⟩
      show (refusing.performAll noFiles [.jump]).1[0]? = some entry
      rw [performAll_cons [] first]
      split <;> rfl
    obtain ⟨entry, at_0⟩ := entries
    obtain ⟨action, requested, -, -, failed⟩ := (usage_leaves_line_alone refusing).2 _ _ _ _ at_0
    obtain rfl : .jump = action := by simpa [Request.actions] using requested
    exact ⟨entry, at_0, failed _ b refused used⟩

end BootHost.Memory.Access
