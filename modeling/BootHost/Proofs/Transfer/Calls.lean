import BootHost.Proofs.Conversation
import BootHost.Proofs.Tape

/-!
# The calls of a transfer

What a transfer is, told by the calls that it makes on the port. A send offers the bytes that are left,
again and again, and a receive asks for those that are missing, for as long as each call moves some of
them or fails in a way that does not count (`Port.Offers`, `Port.Asks`). The call that is not one of
these ends the transfer, and nothing is called behind it (`Wire.SendEnds`, `Wire.ReceiveEnds`). This
describes the transfers exactly (`sendCalls_iff`, `receiveCalls_iff`).
-/

namespace BootHost

namespace Port

variable {σ : Type} [Port σ]

/-- Write calls that let a send go on, each of which offers what the earlier ones left: they took `part`,
and `rest` is left. -/
inductive Offers : Bytes → Bytes → σ → σ → Prop where
  | nil {rest : Bytes} {s : σ} : Offers [] rest s s
  | took {first part rest : Bytes} {s s' s'' : σ} : first ≠ [] →
      Port.write (first ++ part ++ rest) s = (.ok first.length, s') → Offers part rest s' s'' →
      Offers (first ++ part) rest s s''
  | again {part rest : Bytes} {s s' s'' : σ} {e : DeviceFault} : part ++ rest ≠ [] →
      Port.write (part ++ rest) s = (.error e, s') → e.isTransient = true → Offers part rest s' s'' →
      Offers part rest s s''

/-- Read calls that let a receive go on, each of which asks for what the earlier ones did not bring: they
brought `part`, and so many bytes are still missing. -/
inductive Asks : Bytes → Nat → σ → σ → Prop where
  | nil {missing : Nat} {s : σ} : Asks [] missing s s
  | brought {first part : Bytes} {missing : Nat} {s s' s'' : σ} : first ≠ [] →
      Port.read (first.length + part.length + missing) s = (.ok first, s') → Asks part missing s' s'' →
      Asks (first ++ part) missing s s''
  | again {part : Bytes} {missing : Nat} {s s' s'' : σ} {e : DeviceFault} : part.length + missing ≠ 0 →
      Port.read (part.length + missing) s = (.error e, s') → e.isTransient = true →
      Asks part missing s' s'' → Asks part missing s s''

end Port

namespace Wire

variable {σ : Type} [Port σ]

/-- How a send ends when `rest` is left. -/
inductive SendEnds : Bytes → Wire σ → Except DeviceFault Unit → Wire σ → Prop where
  /-- Nothing is left, and all is pushed out. -/
  | flushed {w : Wire σ} {s : σ} : Port.flush w.port = (.ok (), s) →
      SendEnds [] w (.ok ()) ⟨s, w.traffic.flush⟩
  /-- Nothing is left, but it cannot be pushed out. -/
  | unflushed {w : Wire σ} {s : σ} {e : DeviceFault} : Port.flush w.port = (.error e, s) →
      SendEnds [] w (.error e) ⟨s, w.traffic⟩
  /-- None of the bytes that are left is taken. -/
  | stopped {rest : Bytes} {w : Wire σ} {s : σ} : rest ≠ [] → Port.write rest w.port = (.ok 0, s) →
      SendEnds rest w (.error .writeStopped) ⟨s, w.traffic⟩
  /-- The line fails for good. -/
  | broken {rest : Bytes} {w : Wire σ} {s : σ} {e : DeviceFault} : rest ≠ [] →
      Port.write rest w.port = (.error e, s) → e.isTransient = false →
      SendEnds rest w (.error e) ⟨s, w.traffic⟩

/-- A send of some bytes, from its first call to its end. -/
inductive SendCalls : Bytes → Wire σ → Except DeviceFault Unit → Wire σ → Prop where
  | intro {part rest : Bytes} {w w' : Wire σ} {s : σ} {r : Except DeviceFault Unit} :
      Port.Offers part rest w.port s → SendEnds rest ⟨s, w.traffic.take part⟩ r w' →
      SendCalls (part ++ rest) w r w'

/-- How a receive ends that was brought `part`, when so many bytes are missing. -/
inductive ReceiveEnds (part : Bytes) : Nat → Wire σ → Except DeviceFault Bytes → Wire σ → Prop where
  /-- Nothing is missing. -/
  | complete {w : Wire σ} : ReceiveEnds part 0 w (.ok part) w
  /-- The line has come to its end. -/
  | closed {missing : Nat} {w : Wire σ} {s : σ} : missing ≠ 0 → Port.read missing w.port = (.ok [], s) →
      ReceiveEnds part missing w (.error (.closedAfter part.length (part.length + missing))) ⟨s, w.traffic⟩
  /-- The line fails for good. -/
  | broken {missing : Nat} {w : Wire σ} {s : σ} {e : DeviceFault} : missing ≠ 0 →
      Port.read missing w.port = (.error e, s) → e.isTransient = false →
      ReceiveEnds part missing w (.error e) ⟨s, w.traffic⟩

/-- A receive of so many bytes, from its first call to its end. -/
inductive ReceiveCalls : Nat → Wire σ → Except DeviceFault Bytes → Wire σ → Prop where
  | intro {part : Bytes} {missing : Nat} {w w' : Wire σ} {s : σ} {r : Except DeviceFault Bytes} :
      Port.Asks part missing w.port s →
      ReceiveEnds part missing ⟨s, w.traffic.deliver part.length⟩ r w' →
      ReceiveCalls (part.length + missing) w r w'

variable {w w' : Wire σ} {bytes first : Bytes} {s : σ} {e : DeviceFault} {r : Except DeviceFault Unit}

/-- A send may end with its first call. -/
theorem SendEnds.calls (h : SendEnds bytes w r w') : SendCalls bytes w r w' :=
  @SendCalls.intro _ _ [] bytes w w' w.port r .nil h

/-- A send whose first call takes some bytes goes on with the others. -/
theorem SendCalls.took (some : first ≠ []) (hw : Port.write (first ++ bytes) w.port = (.ok first.length, s))
    (h : SendCalls bytes ⟨s, w.traffic.take first⟩ r w') : SendCalls (first ++ bytes) w r w' := by
  cases h with
  | intro offers ends =>
    rw [← List.append_assoc] at hw ⊢
    rw [Traffic.take_take] at ends
    exact .intro (.took some hw offers) ends

/-- A send whose first call is to be made again goes on as it began. -/
theorem SendCalls.again (some : bytes ≠ []) (hw : Port.write bytes w.port = (.error e, s))
    (transient : e.isTransient = true) (h : SendCalls bytes ⟨s, w.traffic⟩ r w') : SendCalls bytes w r w' := by
  cases h with
  | intro offers ends => exact .intro (.again some hw transient offers) ends

end Wire

namespace Line

variable {σ : Type} [Port σ] {l l' : Line σ} {bytes part rest : Bytes} {s : σ} {e : DeviceFault}

theorem port_of_write {r : Except DeviceFault Nat} (h : l.write bytes = (r, l')) :
    Port.write bytes l.port = (r, l'.port) := by
  have result := write_fst bytes l
  have port := write_port bytes l
  rw [h] at result port
  exact Prod.ext result.symm port.symm

theorem port_of_read {n : Nat} {r : Except DeviceFault Bytes} (h : l.read n = (r, l')) :
    Port.read n l.port = (r, l'.port) := by
  have result := read_fst n l
  have port := read_port n l
  rw [h] at result port
  exact Prod.ext result.symm port.symm

theorem port_of_flush {r : Except DeviceFault Unit} (h : l.flush = (r, l')) :
    Port.flush l.port = (r, l'.port) := by
  unfold flush at h
  split at h <;> rename_i flushed <;> obtain ⟨rfl, rfl⟩ := Prod.mk.inj h <;> exact flushed

/-- A send makes the calls that are told of it. -/
theorem send_calls (bytes : Bytes) (l : Line σ) :
    l.wire.SendCalls bytes (l.send bytes).1 (l.send bytes).2.wire := by
  -- each call ends the send, or goes in front of the calls of the rest
  fun_induction send bytes l with
  | case1 l =>
    apply Wire.SendEnds.calls
    rcases hf : l.flush with ⟨e | _, l'⟩
    · have still : l'.wire = ⟨l'.port, l.traffic⟩ := by rw [wire, traffic_of_flush_error hf]
      rw [still]
      exact .unflushed (port_of_flush hf)
    · have pushed : l'.wire = ⟨l'.port, l.traffic.flush⟩ := by rw [wire, traffic_of_flush_ok hf]
      rw [pushed]
      exact .flushed (port_of_flush hf)
  | case2 l b rest l' hw =>
    have still : l'.wire = ⟨l'.port, l.traffic⟩ := by
      rw [wire, (traffic_of_write_ok hw).2, List.take_zero, Traffic.take_nil]
    rw [still]
    exact (Wire.SendEnds.stopped (List.cons_ne_nil b rest) (port_of_write hw)).calls
  | case3 l b rest k l' hw ih =>
    obtain ⟨offered, traffic⟩ := traffic_of_write_ok hw
    have length : (b :: rest.take k).length = k + 1 := by
      rw [List.length_cons, List.length_take_of_le (Nat.le_of_succ_le_succ offered)]
    have whole : b :: rest.take k ++ rest.drop k = b :: rest := by
      rw [List.cons_append, List.take_append_drop]
    rw [wire_note, wire, traffic] at ih
    rw [← whole]
    refine .took (List.cons_ne_nil b _) ?_ ih
    rw [whole, length]
    exact port_of_write hw
  | case4 l b rest e l' hw transient ih =>
    rw [wire, traffic_of_write_error hw] at ih
    exact .again (List.cons_ne_nil b rest) (port_of_write hw) transient ih
  | case5 l b rest e l' hw final =>
    have still : l'.wire = ⟨l'.port, l.traffic⟩ := by rw [wire, traffic_of_write_error hw]
    rw [still]
    have broken := port_of_write hw
    exact (Wire.SendEnds.broken (List.cons_ne_nil b rest) broken (Bool.eq_false_iff.2 final)).calls

/-- One call of a send, and what follows. -/
theorem send_of_write {r : Except DeviceFault Nat} (some : bytes ≠ []) (hw : l.write bytes = (r, l')) :
    l.send bytes =
      match r with
      | .ok 0 => (.error .writeStopped, l')
      | .ok (k + 1) => (l'.note (.accepted (k + 1))).send (bytes.drop (k + 1))
      | .error e => if e.isTransient = true then l'.send bytes else (.error e, l') := by
  obtain ⟨b, rest, rfl⟩ := List.exists_cons_of_ne_nil some
  rw [send]
  split <;> rename_i h <;> obtain ⟨rfl, rfl⟩ := Prod.mk.inj (hw.symm.trans h)
  · rfl
  · rfl
  · simp

/-- Behind calls that let it go on, a send is a send of what is left. -/
theorem send_of_offers {s₀ : σ} (h : Port.Offers part rest s₀ s) {l : Line σ} (hl : l.port = s₀) :
    ∃ m : Line σ, l.send (part ++ rest) = m.send rest ∧ m.wire = ⟨s, l.traffic.take part⟩ := by
  induction h generalizing l with
  | nil => exact ⟨l, rfl, by rw [wire, hl, Traffic.take_nil]⟩
  | @took first part rest s₀ s₁ s₂ some hw _ ih =>
    subst hl
    let l₁ : Line σ := { l with port := s₁, traffic := l.traffic.take first }
    have taken : l.write (first ++ part ++ rest) = (.ok first.length, l₁) := by
      rw [write, hw]
      simp [l₁]
    obtain ⟨k, length⟩ := Nat.exists_eq_add_one.2 (List.length_pos_iff.2 some)
    have left : (first ++ part ++ rest).drop (k + 1) = part ++ rest := by
      rw [← length, List.append_assoc, List.drop_left]
    rw [length] at taken
    obtain ⟨m, later, behind⟩ := ih (l := l₁.note (.accepted (k + 1))) rfl
    refine ⟨m, ?_, ?_⟩
    · rw [send_of_write (by simp [some]) taken, ← later, ← left]
    · rw [behind, note_traffic, Traffic.take_take]
  | @again part rest s₀ s₁ s₂ e some hw transient _ ih =>
    subst hl
    let l₁ : Line σ := { l with port := s₁ }
    have failed : l.write (part ++ rest) = (.error e, l₁) := by rw [write, hw]
    obtain ⟨m, later, behind⟩ := ih (l := l₁) rfl
    refine ⟨m, ?_, behind⟩
    rw [send_of_write some failed, ← later]
    exact if_pos transient

theorem send_of_ends {r : Except DeviceFault Unit} {w' : Wire σ} (h : l.wire.SendEnds rest r w') :
    (l.send rest).1 = r ∧ (l.send rest).2.wire = w' := by
  cases h with
  | flushed hf =>
    rw [send, flush, show Port.flush l.port = _ from hf]
    exact ⟨rfl, rfl⟩
  | unflushed hf =>
    rw [send, flush, show Port.flush l.port = _ from hf]
    exact ⟨rfl, rfl⟩
  | @stopped _ _ s some hw =>
    have nothing : l.write rest = (.ok 0, { l with port := s }) := by
      rw [write, show Port.write rest l.port = _ from hw]
      rfl
    rw [send_of_write some nothing]
    exact ⟨rfl, rfl⟩
  | @broken _ _ s e some hw final =>
    have failed : l.write rest = (.error e, { l with port := s }) := by
      rw [write, show Port.write rest l.port = _ from hw]
    rw [send_of_write some failed]
    simp [final, wire]

/-- A send goes as its calls do, and in no other way. -/
theorem sendCalls_iff {r : Except DeviceFault Unit} {w' : Wire σ} :
    l.wire.SendCalls bytes r w' ↔ (l.send bytes).1 = r ∧ (l.send bytes).2.wire = w' := by
  constructor
  · intro h
    cases h with
    | intro offers ends =>
      obtain ⟨m, same, behind⟩ := send_of_offers offers rfl
      rw [wire_traffic, ← behind] at ends
      rw [same]
      exact send_of_ends ends
  · rintro ⟨rfl, rfl⟩
    exact send_calls bytes l

/-- A receive that has got some bytes already makes the calls that are told of it. -/
theorem collect_calls {total need : Nat} (got : Bytes) (l : Line σ) (asked : got.length + need = total) :
    ∃ part missing s, Port.Asks part missing l.port s ∧ part.length + missing = need ∧
      Wire.ReceiveEnds (got.reverse ++ part) missing ⟨s, l.traffic.deliver part.length⟩
        (collect total got need l).1 (collect total got need l).2.wire := by
  -- what was got and what is missing come to the total, from call to call
  fun_induction collect total got need l with
  | case1 got l =>
    refine ⟨[], 0, l.port, .nil, rfl, ?_⟩
    rw [List.append_nil]
    exact .complete
  | case2 got need l some l' hr =>
    refine ⟨[], need, l.port, .nil, Nat.zero_add need, ?_⟩
    have still : l'.wire = ⟨l'.port, l.traffic⟩ := by
      rw [wire, (traffic_of_read_ok hr).2, List.length_nil, Traffic.deliver_zero]
    have received : got.reverse.length = total - need := by
      rw [List.length_reverse]
      omega
    have total_eq : total = got.reverse.length + need := by rw [List.length_reverse, asked]
    rw [still, List.append_nil, ← received, total_eq]
    exact .closed some (port_of_read hr)
  | case3 got need l some b bytes l' hr ih =>
    obtain ⟨fits, traffic⟩ := traffic_of_read_ok hr
    have length : ((b :: bytes).reverseAux got).length = got.length + (b :: bytes).length := by
      rw [List.reverseAux_eq, List.length_append, List.length_reverse, Nat.add_comm]
    have same (part : Bytes) :
        ((b :: bytes).reverseAux got).reverse ++ part = got.reverse ++ (b :: bytes ++ part) := by
      simp [List.reverseAux_eq]
    obtain ⟨part, missing, s, asks, left, ends⟩ := ih (by omega)
    rw [note_port] at asks
    refine ⟨b :: bytes ++ part, missing, s, ?_, ?_, ?_⟩
    · refine .brought (List.cons_ne_nil b bytes) ?_ asks
      rw [show (b :: bytes).length + part.length + missing = need by omega]
      exact port_of_read hr
    · rw [List.length_append]
      omega
    · rwa [note_traffic, traffic, Traffic.deliver_deliver, ← List.length_append, same] at ends
  | case4 got need l some e l' hr transient ih =>
    obtain ⟨part, missing, s, asks, left, ends⟩ := ih asked
    refine ⟨part, missing, s, ?_, left, ?_⟩
    · refine .again (by omega) ?_ transient asks
      rw [left]
      exact port_of_read hr
    · rwa [traffic_of_read_error hr] at ends
  | case5 got need l some e l' hr final =>
    refine ⟨[], need, l.port, .nil, Nat.zero_add need, ?_⟩
    have still : l'.wire = ⟨l'.port, l.traffic⟩ := by rw [wire, traffic_of_read_error hr]
    rw [still]
    exact .broken some (port_of_read hr) (Bool.eq_false_iff.2 final)

/-- One call of a receive, and what follows. -/
theorem collect_of_read {total need : Nat} {got : Bytes} {r : Except DeviceFault Bytes} (some : need ≠ 0)
    (hr : l.read need = (r, l')) :
    collect total got need l =
      match r with
      | .ok [] => (.error (.closedAfter (total - need) total), l')
      | .ok (b :: bytes) =>
        collect total ((b :: bytes).reverseAux got) (need - (b :: bytes).length)
          (l'.note (.received (b :: bytes).length))
      | .error e => if e.isTransient = true then collect total got need l' else (.error e, l') := by
  rw [collect, if_neg some]
  split <;> rename_i h <;> obtain ⟨rfl, rfl⟩ := Prod.mk.inj (hr.symm.trans h)
  · rfl
  · rfl
  · simp

/-- Behind calls that let it go on, a receive asks for what is missing. -/
theorem collect_of_asks (total : Nat) (got : Bytes) {missing : Nat} {s₀ : σ} (h : Port.Asks part missing s₀ s)
    {l : Line σ} (hl : l.port = s₀) :
    ∃ m : Line σ,
      collect total got (part.length + missing) l = collect total (part.reverse ++ got) missing m ∧
        m.wire = ⟨s, l.traffic.deliver part.length⟩ := by
  induction h generalizing l got with
  | @nil missing s =>
    refine ⟨l, ?_, ?_⟩
    · simp
    · rw [wire, hl, List.length_nil, Traffic.deliver_zero]
  | @brought first part missing s₀ s₁ s₂ some hr _ ih =>
    subst hl
    obtain ⟨b, bytes, rfl⟩ := List.exists_cons_of_ne_nil some
    let l₁ : Line σ := { l with port := s₁, traffic := l.traffic.deliver (b :: bytes).length }
    have brought : l.read ((b :: bytes).length + part.length + missing) = (.ok (b :: bytes), l₁) := by
      rw [read, hr]
    obtain ⟨m, later, behind⟩ :=
      ih ((b :: bytes).reverseAux got) (l := l₁.note (.received (b :: bytes).length)) rfl
    refine ⟨m, ?_, ?_⟩
    · have left : (b :: bytes).length + part.length + missing - (b :: bytes).length = part.length + missing := by
        omega
      rw [List.length_append, collect_of_read (by simp) brought]
      dsimp only
      rw [left, later, List.reverseAux_eq, List.reverse_append, List.append_assoc]
    · rw [behind, note_traffic, Traffic.deliver_deliver, List.length_append]
  | @again part missing s₀ s₁ s₂ e some hr transient _ ih =>
    subst hl
    let l₁ : Line σ := { l with port := s₁ }
    have failed : l.read (part.length + missing) = (.error e, l₁) := by rw [read, hr]
    obtain ⟨m, later, behind⟩ := ih got (l := l₁) rfl
    refine ⟨m, ?_, behind⟩
    rw [collect_of_read some failed, ← later]
    exact if_pos transient

theorem collect_of_ends {missing : Nat} {got : Bytes} {r : Except DeviceFault Bytes} {w' : Wire σ}
    (h : l.wire.ReceiveEnds got missing r w') :
    (collect (got.length + missing) got.reverse missing l).1 = r ∧
      (collect (got.length + missing) got.reverse missing l).2.wire = w' := by
  cases h with
  | complete =>
    rw [collect, if_pos rfl, List.reverse_reverse]
    exact ⟨rfl, rfl⟩
  | @closed _ _ s some hr =>
    have ended : l.read missing = (.ok [], { l with port := s }) := by
      rw [read, show Port.read missing l.port = _ from hr]
      rfl
    rw [collect_of_read some ended]
    dsimp only
    rw [Nat.add_sub_cancel]
    exact ⟨rfl, rfl⟩
  | @broken _ _ s e some hr final =>
    have failed : l.read missing = (.error e, { l with port := s }) := by
      rw [read, show Port.read missing l.port = _ from hr]
    rw [collect_of_read some failed]
    simp [final, wire]

/-- A receive goes as its calls do, and in no other way. -/
theorem receiveCalls_iff {count : Nat} {r : Except DeviceFault Bytes} {w' : Wire σ} :
    l.wire.ReceiveCalls count r w' ↔ (l.receive count).1 = r ∧ (l.receive count).2.wire = w' := by
  constructor
  · intro h
    cases h with
    | @intro part missing _ _ s _ asks ends =>
      obtain ⟨m, same, behind⟩ := collect_of_asks (part.length + missing) [] asks rfl
      rw [wire_traffic, ← behind] at ends
      rw [receive, same, List.append_nil]
      exact collect_of_ends ends
  · rintro ⟨rfl, rfl⟩
    obtain ⟨part, missing, s, asks, rfl, ends⟩ := collect_calls [] l (Nat.zero_add count)
    exact .intro asks ends

/-- A send hands over each byte once and in order, whatever its calls meet. What the port took of the
bytes is their front, and all of them when the send succeeds, which it does exactly when all were taken
ahead of any fault that counts and could be pushed out. Otherwise it ends with the first call that stops
or fails, and nothing is called behind that one. -/
theorem send_takes_each_byte_once (bytes : Bytes) (l : Line σ) :
    (∀ r w, l.wire.SendCalls bytes r w ↔ (l.send bytes).1 = r ∧ (l.send bytes).2.wire = w) ∧
    ((l.send bytes).1 = .ok () ↔
      ∃ s s', Port.Offers bytes [] l.port s ∧ Port.flush s = (.ok (), s')) ∧
    ∃ part, part <+: bytes ∧ (l.send bytes).2.traffic.taken = l.traffic.taken ++ part ∧
      ((l.send bytes).1 = .ok () → part = bytes) := by
  refine ⟨fun r w => sendCalls_iff, ⟨?_, ?_⟩, ?_⟩
  · intro success
    have calls := send_calls bytes l
    rw [success] at calls
    generalize (l.send bytes).2.wire = w at calls
    cases calls with
    | intro offers ends =>
      cases ends with
      | flushed hf => exact ⟨_, _, by rwa [List.append_nil], hf⟩
  · rintro ⟨s, s', offers, flushed⟩
    have calls : l.wire.SendCalls (bytes ++ []) (.ok ()) ⟨s', (l.traffic.take bytes).flush⟩ :=
      .intro offers (.flushed flushed)
    rw [List.append_nil] at calls
    exact (sendCalls_iff.1 calls).1
  · rcases hs : l.send bytes with ⟨e | _, l'⟩
    · obtain ⟨part, front, traffic⟩ := traffic_of_send_error hs
      refine ⟨part, front, ?_, nofun⟩
      rw [traffic, Traffic.taken_take]
    · refine ⟨bytes, List.prefix_rfl, ?_, fun _ => rfl⟩
      rw [traffic_of_send_ok hs, Traffic.taken_flush, Traffic.taken_take]

end Line

end BootHost
