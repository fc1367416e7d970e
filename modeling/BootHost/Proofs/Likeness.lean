import BootHost.Proofs.Mirror
import BootHost.Proofs.Tape.Dialogue

/-!
# Lines that are alike

Two lines are alike when they follow the same tape, the second one perhaps with more deliveries
behind it. Every call of the host on the one brings what it brings on the other, and leaves the two
alike: this is shown for an exchange on the tape, and goes over from there to a whole run. How a port
cuts its bytes and how often it has to be asked is therefore invisible.
-/

namespace BootHost

namespace Traffic

/-- The same traffic with earlier deliveries in front of it. -/
def later (d : Nat) (t : Traffic) : Traffic :=
  { t with
    delivered := t.delivered + d
    groupsRev := t.groupsRev.map fun g => { g with after := g.after + d } }

@[simp] theorem later_zero (t : Traffic) : t.later 0 = t := by
  simp [later]

theorem deliver_later (d count : Nat) (t : Traffic) :
    (t.later d).deliver count = (t.deliver count).later d := by
  simp [later, deliver, Nat.add_right_comm]

theorem take_later (d : Nat) (bytes : Bytes) (t : Traffic) :
    (t.later d).take bytes = (t.take bytes).later d := rfl

theorem flush_later (d : Nat) (t : Traffic) : (t.later d).flush = t.flush.later d := by
  cases h : t.pendingRev <;> simp [later, flush, h]

end Traffic

namespace Tape

/-- The same tape with earlier deliveries behind it. -/
def later (d : Nat) (t : Tape) : Tape := { t with traffic := t.traffic.later d }

/-- The second tape is the first one with earlier deliveries behind it. -/
def IsLater (d : Nat) (t t' : Tape) : Prop := t' = t.later d

@[simp] theorem later_zero (t : Tape) : t.later 0 = t := by
  simp [later]

theorem deliver_later (d count : Nat) (t : Tape) :
    (t.later d).deliver count = (t.deliver count).later d := by
  simp [later, deliver, Traffic.deliver_later]

theorem send_later (d : Nat) (bytes : Bytes) (t : Tape) :
    Agree (IsLater d) (t.send bytes) ((t.later d).send bytes) := by
  have room : (t.later d).hasRoom bytes.length = t.hasRoom bytes.length := rfl
  unfold send
  rw [room]
  split
  · exact .of (by simp [IsLater, later, take, flush, Traffic.take_later, Traffic.flush_later])
  · exact .of (by simp [IsLater, later, take, Traffic.take_later])

theorem receive_later (d count : Nat) (t : Tape) :
    Agree (IsLater d) (t.receive count) ((t.later d).receive count) := by
  have same : (t.later d).incoming = t.incoming := rfl
  unfold receive
  rw [same]
  split <;> exact .of (deliver_later d _ t)

theorem receiveByte_later (d : Nat) (t : Tape) :
    Agree (IsLater d) t.receiveByte (t.later d).receiveByte := by
  have same : (t.later d).incoming = t.incoming := rfl
  unfold receiveByte
  rw [same]
  cases t.incoming with
  | nil => exact .of rfl
  | cons b rest => exact .of (deliver_later d 1 t)

theorem issue_later (d : Nat) (c : Command) (t : Tape) :
    Agree (IsLater d) (t.issue c) ((t.later d).issue c) := by
  obtain ⟨r, t₁, t₂, h₁, h₂, sent⟩ := (send_later d c.encode t).cases
  unfold issue
  rw [h₁, h₂]
  cases r <;> exact .of sent

theorem awaitAck_later (d : Nat) (stage : Stage) (t : Tape) :
    Agree (IsLater d) (t.awaitAck stage) ((t.later d).awaitAck stage) := by
  obtain ⟨r, t₁, t₂, h₁, h₂, heard⟩ := (receiveByte_later d t).cases
  unfold awaitAck
  rw [h₁, h₂]
  cases r with
  | error e => exact .of heard
  | ok b =>
    dsimp only
    split <;> exact .of heard

theorem command_later (d : Nat) (c : Command) (stage : Stage) (t : Tape) :
    Agree (IsLater d) (t.command c stage) ((t.later d).command c stage) := by
  obtain ⟨r, t₁, t₂, h₁, h₂, rfl⟩ := (issue_later d c t).cases
  unfold command
  rw [h₁, h₂]
  cases r with
  | error e => exact .of rfl
  | ok _ => exact awaitAck_later d stage t₁

theorem fetch_later (d : Nat) (length : UInt32) (address : UInt64) (t : Tape) :
    Agree (IsLater d) (t.fetch length address) ((t.later d).fetch length address) := by
  obtain ⟨r, t₁, t₂, h₁, h₂, rfl⟩ := (issue_later d (.readBlock length address) t).cases
  unfold fetch
  rw [h₁, h₂]
  cases r with
  | error e => exact .of rfl
  | ok _ =>
    obtain ⟨r, u₁, u₂, k₁, k₂, heard⟩ := (receive_later d length.toNat t₁).cases
    simp only [k₁, k₂]
    cases r <;> exact .of heard

end Tape

variable {σ τ : Type} [Port σ] [Port τ] [Taped σ] [Taped τ] {d : Nat}

namespace Line

/-- Two lines follow the same tape, the second one with `d` earlier deliveries behind it. -/
def Alike (d : Nat) (l : Line σ) (m : Line τ) : Prop :=
  ∃ t : Tape, l.Follows t ∧ m.Follows (t.later d)

variable {l : Line σ} {m : Line τ}

theorem Alike.note (n : Note) (h : Alike d l m) : Alike d (l.note n) (m.note n) := by
  obtain ⟨t, hl, hm⟩ := h
  exact ⟨t, hl.note n, hm.note n⟩

theorem Alike.traffic (h : Alike d l m) : m.traffic = l.traffic.later d := by
  obtain ⟨t, hl, hm⟩ := h
  rw [hm.traffic, hl.traffic, Tape.later]

/-- Calls that follow the same call on a tape bring the same and leave lines that are alike. -/
theorem agree_alike {ρ : Type} {x : ρ × Line σ} {y : ρ × Line τ} {u v : ρ × Tape}
    (hx : Agree Follows x u) (hy : Agree Follows y v) (h : Agree (Tape.IsLater d) u v) :
    Agree (Alike d) x y := by
  obtain ⟨r, t, t', rfl, rfl, rfl⟩ := h.cases
  obtain ⟨l, rfl, hl⟩ := hx.left
  obtain ⟨m, rfl, hm⟩ := hy.left
  exact .of ⟨t, hl, hm⟩

theorem command_alike (c : Command) (stage : Stage) (h : Alike d l m) :
    Agree (Alike d) (l.command c stage) (m.command c stage) := by
  obtain ⟨t, hl, hm⟩ := h
  exact agree_alike (command_follows c stage hl) (command_follows c stage hm)
    (Tape.command_later d c stage t)

theorem fetch_alike (length : UInt32) (address : UInt64) (h : Alike d l m) :
    Agree (Alike d) (l.fetch length address) (m.fetch length address) := by
  obtain ⟨t, hl, hm⟩ := h
  exact agree_alike (fetch_follows length address hl) (fetch_follows length address hm)
    (Tape.fetch_later d length address t)

theorem likeness_alike (d : Nat) : Likeness (Alike d : Line σ → Line τ → Prop) where
  note n h := h.note n
  command c stage h := command_alike c stage h
  fetch length address h := fetch_alike length address h

end Line

namespace Connection

/-- Two connections in the same phase over lines that are alike. -/
structure Behind (d : Nat) (conn : Connection σ) (conn' : Connection τ) : Prop where
  line : Line.Alike d conn.line conn'.line
  phase : conn.phase = conn'.phase

/-- Runs that are greeted alike, and ask for the same at the same address, bring the same. -/
theorem run_behind {conn : Connection σ} {conn' : Connection τ} {setup setup' : Setup} (storage : Storage)
    (address : setup.address = setup'.address) (request : setup.request = setup'.request)
    (h : Agree (Behind d) (conn.connect (.ofSkipWait setup.skipWait))
      (conn'.connect (.ofSkipWait setup'.skipWait))) :
    Agree (Behind d) (conn.run storage setup) (conn'.run storage setup') := by
  have greeted : Agree (Paired (Line.Alike d)) (conn.connect (.ofSkipWait setup.skipWait))
      (conn'.connect (.ofSkipWait setup'.skipWait)) := ⟨h.result, h.state.line, h.state.phase⟩
  have ran := (Line.likeness_alike d).run storage address request greeted
  exact ⟨ran.result, ran.state.line, ran.state.phase⟩

end Connection

end BootHost
