import BootHost.Connection
import BootHost.Line.Exchange
import BootHost.Proofs.Tape

/-!
# The dialogue on a tape

The greeting and the exchanges of commands, as they go on a tape, and that every line which follows
the tape brings the same: the same fault or the same answer, and the same tape afterwards.
-/

namespace BootHost

namespace Tape

/-- Sends the magic and waits for its acknowledgment. -/
def nock (t : Tape) : Except Fault Unit × Tape :=
  match t.send Protocol.magic with
  | (.error e, t') => (.error (.transport e), t')
  | (.ok (), t') =>
    match t'.receiveUpTo (· != Protocol.ready) with
    | (.error e, t'') => (.error (.transport e), t'')
    | (.ok (_, b), t'') =>
      if b = Protocol.ack then (.ok (), t'') else (.error (.refused .nock (.ofByte b)), t'')

/-- Greets the board. -/
def greet (start : Start) (t : Tape) : Except Fault Unit × Tape :=
  match start with
  | .nock => t.nock
  | .awaitBoard =>
    match t.receiveUpTo (· == Protocol.ready) with
    | (.error e, t') => (.error (.transport e), t')
    | (.ok _, t') => t'.nock

/-- Sends a command. -/
def issue (c : Command) (t : Tape) : Except Fault Unit × Tape :=
  match t.send c.encode with
  | (.ok (), t') => (.ok (), t')
  | (.error e, t') => (.error (.transport e), t')

/-- Reads one answer, which must be an acknowledgment. -/
def awaitAck (stage : Stage) (t : Tape) : Except Fault Unit × Tape :=
  match t.receiveByte with
  | (.error e, t') => (.error (.transport e), t')
  | (.ok b, t') => if b = Protocol.ack then (.ok (), t') else (.error (.refused stage (.ofByte b)), t')

/-- Sends a command and waits until it is acknowledged. -/
def command (c : Command) (stage : Stage) (t : Tape) : Except Fault Unit × Tape :=
  match t.issue c with
  | (.error e, t') => (.error e, t')
  | (.ok (), t') => t'.awaitAck stage

/-- Asks for a block of memory and waits for all of it. -/
def fetch (length : UInt32) (address : UInt64) (t : Tape) : Except Fault Bytes × Tape :=
  match t.issue (.readBlock length address) with
  | (.error e, t') => (.error e, t')
  | (.ok (), t') =>
    match t'.receive length.toNat with
    | (.error e, t'') => (.error (.transport e), t'')
    | (.ok bytes, t'') => (.ok bytes, t'')

end Tape

namespace Line

variable {σ : Type} [Port σ] [Taped σ] {l l' : Line σ} {t : Tape}

theorem follows_of_receiveByte_ok {b : UInt8} (h : l.Follows t) (hl : l.receiveByte = (.ok b, l')) :
    ∃ rest, t.incoming = b :: rest ∧ l'.Follows (t.deliver 1) := by
  obtain ⟨t', ht, follows⟩ := (hl ▸ receiveByte_follows h).right
  unfold Tape.receiveByte at ht
  split at ht
  · simp at ht
  · rename_i c rest hi
    obtain ⟨rfl, rfl⟩ : c = b ∧ t.deliver 1 = t' := by simpa using ht
    exact ⟨rest, hi, follows⟩

theorem follows_of_receiveByte_error {e : DeviceFault} (h : l.Follows t)
    (hl : l.receiveByte = (.error e, l')) :
    t.incoming = [] ∧ e = .closedAfter 0 1 ∧ l'.Follows t := by
  obtain ⟨t', ht, follows⟩ := (hl ▸ receiveByte_follows h).right
  unfold Tape.receiveByte at ht
  split at ht
  · rename_i hi
    obtain ⟨rfl, rfl⟩ : .closedAfter 0 1 = e ∧ t = t' := by simpa using ht
    exact ⟨hi, rfl, follows⟩
  · simp at ht

theorem awaitReady_follows (dropped : Nat) (h : l.Follows t) :
    Agree Follows (l.awaitReady dropped)
      (match t.receiveUpTo (· == Protocol.ready) with
      | (.ok (noise, _), t') => (.ok (dropped + noise.length), t')
      | (.error e, t') => (.error e, t')) := by
  fun_induction awaitReady dropped l generalizing t with
  | case1 dropped l l₁ hl =>
    obtain ⟨rest, hi, follows⟩ := follows_of_receiveByte_ok h hl
    rw [Tape.receiveUpTo_pass hi (by decide)]
    exact .of (follows.note _)
  | case2 dropped l b l₁ hl hb ih =>
    obtain ⟨rest, hi, follows⟩ := follows_of_receiveByte_ok h hl
    have ih' := ih (follows.note _)
    rw [Tape.receiveUpTo_hold hi (by simpa using hb)]
    split at ih' <;> rename_i ht <;> simpa [ht, Nat.add_comm, Nat.add_left_comm] using ih'
  | case3 dropped l e l₁ hl =>
    obtain ⟨hi, rfl, follows⟩ := follows_of_receiveByte_error h hl
    rw [Tape.receiveUpTo_nil hi]
    exact .of follows

theorem awaitAnswer_follows (skipped : Nat) (h : l.Follows t) :
    Agree Follows (l.awaitAnswer skipped)
      (match t.receiveUpTo (· != Protocol.ready) with
      | (.ok (readies, b), t') => (.ok (b, skipped + readies.length), t')
      | (.error e, t') => (.error e, t')) := by
  fun_induction awaitAnswer skipped l generalizing t with
  | case1 skipped l l₁ hl ih =>
    obtain ⟨rest, hi, follows⟩ := follows_of_receiveByte_ok h hl
    have ih' := ih follows
    rw [Tape.receiveUpTo_hold hi (by decide)]
    split at ih' <;> rename_i ht <;> simpa [ht, Nat.add_comm, Nat.add_left_comm] using ih'
  | case2 skipped l b l₁ hl hb =>
    obtain ⟨rest, hi, follows⟩ := follows_of_receiveByte_ok h hl
    rw [Tape.receiveUpTo_pass hi (by simpa using hb)]
    exact .of follows
  | case3 skipped l e l₁ hl =>
    obtain ⟨hi, rfl, follows⟩ := follows_of_receiveByte_error h hl
    rw [Tape.receiveUpTo_nil hi]
    exact .of follows

theorem noteStray_follows (dropped : Nat) (h : l.Follows t) : (l.noteStray dropped).Follows t := by
  unfold noteStray
  split
  · exact h.note _
  · exact h

theorem nock_follows (dropped : Nat) (h : l.Follows t) : Agree Follows (l.nock dropped) t.nock := by
  obtain ⟨r, m, t₁, hm, ht, sent⟩ :=
    (send_follows Protocol.magic ((noteStray_follows dropped (h.note .nocking)).note .greeting)).cases
  unfold nock Tape.nock
  rw [hm, ht]
  cases r with
  | error e => exact .of sent
  | ok _ =>
    have agree := awaitAnswer_follows 0 sent
    rcases hu : t₁.receiveUpTo (· != Protocol.ready) with ⟨e | ⟨readies, b⟩, t₂⟩ <;> rw [hu] at agree
    · obtain ⟨n, hn, heard⟩ := agree.left
      simpa only [hn, hu] using Agree.of heard
    · obtain ⟨n, hn, heard⟩ := agree.left
      simp only [hn, hu]
      split
      · exact .of (heard.note _)
      · exact .of heard

/-- The greeting goes as on the tape. -/
theorem greet_follows (start : Start) (h : l.Follows t) :
    Agree Follows (l.greet start) (t.greet start) := by
  cases start with
  | nock => exact nock_follows 0 h
  | awaitBoard =>
    have agree := awaitReady_follows 0 ((h.note .awaiting).note .listening)
    unfold greet Tape.greet
    rcases hu : t.receiveUpTo (· == Protocol.ready) with ⟨e | ⟨noise, b⟩, t₁⟩ <;> rw [hu] at agree
    · obtain ⟨n, hn, heard⟩ := agree.left
      simpa only [hn, hu] using Agree.of heard
    · obtain ⟨n, hn, heard⟩ := agree.left
      simpa only [hn, hu] using nock_follows _ heard

theorem issue_follows (c : Command) (h : l.Follows t) : Agree Follows (l.issue c) (t.issue c) := by
  obtain ⟨r, m, t₁, hm, ht, sent⟩ :=
    (send_follows c.encode ((h.note (.sending c.tag c.payload.length)).note (.frame c.encode))).cases
  unfold issue Tape.issue
  rw [hm, ht]
  cases r <;> exact .of sent

theorem awaitAck_follows (stage : Stage) (h : l.Follows t) :
    Agree Follows (l.awaitAck stage) (t.awaitAck stage) := by
  obtain ⟨r, m, t₁, hm, ht, heard⟩ := (receiveByte_follows h).cases
  unfold awaitAck Tape.awaitAck
  rw [hm, ht]
  cases r with
  | error e => exact .of heard
  | ok b =>
    dsimp only
    split <;> exact .of heard

/-- A command and its acknowledgment go as on the tape. -/
theorem command_follows (c : Command) (stage : Stage) (h : l.Follows t) :
    Agree Follows (l.command c stage) (t.command c stage) := by
  obtain ⟨r, m, t₁, hm, ht, sent⟩ := (issue_follows c h).cases
  unfold command Tape.command
  rw [hm, ht]
  cases r with
  | error e => exact .of sent
  | ok _ => exact awaitAck_follows stage sent

/-- A block of memory is read as on the tape. -/
theorem fetch_follows (length : UInt32) (address : UInt64) (h : l.Follows t) :
    Agree Follows (l.fetch length address) (t.fetch length address) := by
  obtain ⟨r, m, t₁, hm, ht, sent⟩ := (issue_follows (.readBlock length address) h).cases
  unfold fetch Tape.fetch
  rw [hm, ht]
  cases r with
  | error e => exact .of sent
  | ok _ =>
    obtain ⟨r, n, t₂, hn, ht₂, heard⟩ := (receive_follows length.toNat sent).cases
    simp only [hn, ht₂]
    cases r with
    | error e => exact .of heard
    | ok bytes => exact .of (heard.note _)

end Line

end BootHost
