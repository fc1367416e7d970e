import BootHost.Connection
import BootHost.Proofs.Conversation

/-!
# The greeting over any port

A greeting that goes through waits for the board if it has to, sends the whole magic, and hears behind
some ready bytes that the board acknowledges it (`Wire.Greets`). One that comes to nothing stops
somewhere on that way, with the fault that it met there (`Wire.Rebuffs`). So it leaves in the traffic
some deliveries, then the magic in a group of its own, then deliveries again, or it breaks off before
that and closes no group.
-/

namespace BootHost

variable {σ : Type}

/-- What is noted ahead of the magic leaves the wire alone. -/
theorem Line.wire_nocking (dropped : Nat) (l : Line σ) :
    (((l.note .nocking).noteStray dropped).note .greeting).wire = l.wire := by
  unfold Line.noteStray
  split <;> rfl

variable [Port σ]

namespace Line

variable {l l' : Line σ}

theorem traffic_of_receiveByte {r : Except DeviceFault UInt8} (h : l.receiveByte = (r, l')) :
    ∃ n, l'.traffic = l.traffic.deliver n := by
  unfold receiveByte at h
  split at h
  · rename_i heard
    obtain ⟨-, rfl⟩ := Prod.mk.inj h
    exact ⟨1, (traffic_of_receive_ok heard).2⟩
  · rename_i heard
    obtain ⟨-, rfl⟩ := Prod.mk.inj h
    exact ⟨1, (traffic_of_receive_ok heard).2⟩
  · rename_i heard
    obtain ⟨-, rfl⟩ := Prod.mk.inj h
    obtain ⟨n, -, traffic⟩ := traffic_of_receive_error heard
    exact ⟨n, traffic⟩

theorem traffic_of_awaitReady {dropped : Nat} {r : Except DeviceFault Nat}
    (h : l.awaitReady dropped = (r, l')) : ∃ n, l'.traffic = l.traffic.deliver n := by
  fun_induction awaitReady dropped l with
  | case1 dropped l l₁ hl =>
    obtain ⟨-, rfl⟩ := Prod.mk.inj h
    obtain ⟨n, delivered⟩ := traffic_of_receiveByte hl
    exact ⟨n, delivered⟩
  | case2 dropped l b l₁ hl _ ih =>
    obtain ⟨n, first⟩ := traffic_of_receiveByte hl
    obtain ⟨m, later⟩ := ih h
    refine ⟨n + m, ?_⟩
    rw [later, note_traffic, first, Traffic.deliver_deliver]
  | case3 dropped l e l₁ hl =>
    obtain ⟨-, rfl⟩ := Prod.mk.inj h
    exact traffic_of_receiveByte hl

theorem traffic_of_awaitAnswer {skipped : Nat} {r : Except DeviceFault (UInt8 × Nat)}
    (h : l.awaitAnswer skipped = (r, l')) : ∃ n, l'.traffic = l.traffic.deliver n := by
  fun_induction awaitAnswer skipped l with
  | case1 skipped l l₁ hl ih =>
    obtain ⟨n, first⟩ := traffic_of_receiveByte hl
    obtain ⟨m, later⟩ := ih h
    refine ⟨n + m, ?_⟩
    rw [later, first, Traffic.deliver_deliver]
  | case2 skipped l b l₁ hl _ =>
    obtain ⟨-, rfl⟩ := Prod.mk.inj h
    exact traffic_of_receiveByte hl
  | case3 skipped l e l₁ hl =>
    obtain ⟨-, rfl⟩ := Prod.mk.inj h
    exact traffic_of_receiveByte hl

end Line

/-- The wait of a greeting, which is over when the magic goes out. -/
inductive Wire.Waits : Start → Wire σ → Wire σ → Prop where
  | awake {w : Wire σ} : Waits .nock w w
  | found {l m : Line σ} {dropped : Nat} : l.awaitReady 0 = (.ok dropped, m) → Waits .awaitBoard l.wire m.wire

/-- The magic goes out whole, and behind some ready bytes the board acknowledges it. -/
inductive Wire.Greets (start : Start) : Wire σ → Wire σ → Prop where
  | intro {w : Wire σ} {l m m' : Line σ} {skipped : Nat} : Waits start w l.wire →
      l.send Protocol.magic = (.ok (), m) → m.awaitAnswer 0 = (.ok (Protocol.ack, skipped), m') →
      Greets start w m'.wire

/-- A greeting comes to nothing: the wait does not end, or the magic does not go out, or is not
answered, or is refused. -/
inductive Wire.Rebuffs (start : Start) : Fault → Wire σ → Wire σ → Prop where
  | unready {l m : Line σ} {cause : DeviceFault} : start = .awaitBoard →
      l.awaitReady 0 = (.error cause, m) → Rebuffs start (.transport cause) l.wire m.wire
  | unsent {w : Wire σ} {l m : Line σ} {cause : DeviceFault} : Waits start w l.wire →
      l.send Protocol.magic = (.error cause, m) → Rebuffs start (.transport cause) w m.wire
  | unheard {w : Wire σ} {l m m' : Line σ} {cause : DeviceFault} : Waits start w l.wire →
      l.send Protocol.magic = (.ok (), m) → m.awaitAnswer 0 = (.error cause, m') →
      Rebuffs start (.transport cause) w m'.wire
  | refused {w : Wire σ} {l m m' : Line σ} {b : UInt8} {skipped : Nat} : Waits start w l.wire →
      l.send Protocol.magic = (.ok (), m) → m.awaitAnswer 0 = (.ok (b, skipped), m') → b ≠ Protocol.ack →
      Rebuffs start (.refused .nock (.ofByte b)) w m'.wire

namespace Line

variable {l l' : Line σ} {start : Start}

theorem greets_of_nock_ok {w : Wire σ} {dropped : Nat} (waits : Wire.Waits start w l.wire)
    (h : l.nock dropped = (.ok (), l')) : w.Greets start l'.wire := by
  have noted := wire_nocking dropped l
  unfold nock at h
  split at h
  · simp at h
  · rename_i m sent
    split at h
    · simp at h
    · rename_i b skipped m' heard
      split at h
      · rename_i isAck
        subst isAck
        obtain rfl : m'.note (.trailing skipped) = l' := by simpa using h
        have greets : w.Greets start m'.wire := .intro (noted ▸ waits) sent heard
        exact greets
      · simp at h

theorem rebuffs_of_nock_error {w : Wire σ} {dropped : Nat} {e : Fault} (waits : Wire.Waits start w l.wire)
    (h : l.nock dropped = (.error e, l')) : w.Rebuffs start e l'.wire := by
  have noted := wire_nocking dropped l
  unfold nock at h
  split at h
  · rename_i sent
    cases h
    exact .unsent (noted ▸ waits) sent
  · rename_i m sent
    split at h
    · rename_i heard
      cases h
      exact .unheard (noted ▸ waits) sent heard
    · rename_i b skipped m' heard
      split at h
      · simp at h
      · rename_i notAck
        cases h
        exact .refused (noted ▸ waits) sent heard notAck

theorem greets_of_greet_ok (h : l.greet start = (.ok (), l')) : l.wire.Greets start l'.wire := by
  unfold greet at h
  split at h
  · exact greets_of_nock_ok .awake h
  · split at h
    · simp at h
    · rename_i found
      have waits := Wire.Waits.found found
      exact greets_of_nock_ok waits h

theorem rebuffs_of_greet_error {e : Fault} (h : l.greet start = (.error e, l')) :
    l.wire.Rebuffs start e l'.wire := by
  unfold greet at h
  split at h
  · exact rebuffs_of_nock_error .awake h
  · split at h
    · rename_i lost
      cases h
      have unready := Wire.Rebuffs.unready rfl lost
      exact unready
    · rename_i found
      have waits := Wire.Waits.found found
      exact rebuffs_of_nock_error waits h

end Line

namespace Wire

variable {w w' : Wire σ} {start : Start}

theorem Waits.traffic (h : w.Waits start w') : ∃ m, w'.traffic = w.traffic.deliver m := by
  cases h with
  | awake => exact ⟨0, rfl⟩
  | found found => exact Line.traffic_of_awaitReady found

/-- Once the magic went out behind a wait, there are only deliveries around it. -/
theorem Waits.traffic_of_nocked {l m m' : Line σ} {r : Except DeviceFault (UInt8 × Nat)}
    (waits : w.Waits start l.wire) (sent : l.send Protocol.magic = (.ok (), m))
    (heard : m.awaitAnswer 0 = (r, m')) :
    ∃ m n, m'.wire.traffic = ((w.traffic.deliver m).take Protocol.magic).flush.deliver n := by
  obtain ⟨waited, delivered⟩ := waits.traffic
  obtain ⟨n, answered⟩ := Line.traffic_of_awaitAnswer heard
  refine ⟨waited, n, ?_⟩
  rw [Line.wire_traffic, answered, Line.traffic_of_send_ok sent, ← Line.wire_traffic, delivered]

theorem Greets.traffic (h : w.Greets start w') :
    ∃ m n, w'.traffic = ((w.traffic.deliver m).take Protocol.magic).flush.deliver n := by
  cases h with
  | intro waits sent heard => exact waits.traffic_of_nocked sent heard

theorem Rebuffs.traffic {e : Fault} (h : w.Rebuffs start e w') :
    ∃ m, (∃ part, part <+: Protocol.magic ∧ w'.traffic = (w.traffic.deliver m).take part) ∨
      ∃ n, w'.traffic = ((w.traffic.deliver m).take Protocol.magic).flush.deliver n := by
  cases h with
  | unready _ lost =>
    obtain ⟨m, delivered⟩ := Line.traffic_of_awaitReady lost
    exact ⟨m, Or.inl ⟨[], List.nil_prefix, delivered⟩⟩
  | unsent waits sent =>
    obtain ⟨m, delivered⟩ := waits.traffic
    obtain ⟨part, front, taken⟩ := Line.traffic_of_send_error sent
    refine ⟨m, Or.inl ⟨part, front, ?_⟩⟩
    rw [Line.wire_traffic, taken, ← Line.wire_traffic, delivered]
  | unheard waits sent heard | refused waits sent heard _ =>
    obtain ⟨m, n, traffic⟩ := waits.traffic_of_nocked sent heard
    exact ⟨m, Or.inr ⟨n, traffic⟩⟩

end Wire

namespace Line

variable {l l' : Line σ} {start : Start}

/-- A greeting that succeeds sends the magic in a group of its own. -/
theorem traffic_of_greet_ok (h : l.greet start = (.ok (), l')) :
    ∃ m n, l'.traffic = ((l.traffic.deliver m).take Protocol.magic).flush.deliver n :=
  (greets_of_greet_ok h).traffic

/-- A greeting that fails sends a part of the magic, or the magic in a group of its own. -/
theorem traffic_of_greet_error {e : Fault} (h : l.greet start = (.error e, l')) :
    ∃ m, (∃ part, part <+: Protocol.magic ∧ l'.traffic = (l.traffic.deliver m).take part) ∨
      ∃ n, l'.traffic = ((l.traffic.deliver m).take Protocol.magic).flush.deliver n :=
  (rebuffs_of_greet_error h).traffic

end Line

namespace Connection

variable {conn conn' : Connection σ} {start : Start}

theorem greet_of_connect_ok (h : conn.connect start = (.ok (), conn')) :
    conn.line.greet start = (.ok (), conn'.line) := by
  rcases connect_cases h with ⟨-, greeted, -⟩ | ⟨-, failed, -⟩
  · exact greeted
  · cases failed

theorem greet_of_connect_error {e : Fault} (idle : conn.phase = .idle)
    (h : conn.connect start = (.error e, conn')) : conn.line.greet start = (.error e, conn'.line) := by
  rcases connect_cases h with ⟨-, greeted, -⟩ | ⟨busy, -, -⟩
  · exact greeted
  · exact absurd idle busy

end Connection

end BootHost
