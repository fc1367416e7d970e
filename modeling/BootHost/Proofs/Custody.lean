import BootHost.Port.Queued
import BootHost.Proofs.Transfer.Calls

/-!
# Custody of the bytes

A line over a queued port, under any calls as they come: single reads, writes and flushes, and bytes that are
queued up in between. What the calls move is told by what they give back (`Moved`). No byte is lost and none is
invented: what was delivered and what is still queued is all that was ever queued up, in order, and what was
accepted is in the groups and behind them (`Accounts`). Each call keeps this (`Accounts.raw`), and so any number
of them does.
-/

namespace BootHost

namespace Traffic

variable {t : Traffic}

/-- The counters of a traffic and its groups belong together. -/
structure Sound (t : Traffic) : Prop where
  written : t.written = t.taken.length
  nonempty : ∀ g ∈ t.groups, g.bytes ≠ []
  /-- No group tells of more deliveries than there were. -/
  passed : ∀ g ∈ t.groups, g.after ≤ t.delivered
  ordered : t.groups.Pairwise fun earlier later => earlier.after ≤ later.after

theorem sound_empty : Sound {} := ⟨rfl, nofun, nofun, .nil⟩

theorem Sound.deliver (h : t.Sound) (count : Nat) : (t.deliver count).Sound where
  written := h.written
  nonempty := h.nonempty
  passed g hg := Nat.le_trans (h.passed g hg) (Nat.le_add_right ..)
  ordered := h.ordered

theorem Sound.take (h : t.Sound) (bytes : Bytes) : (t.take bytes).Sound where
  written := by
    rw [taken_take, List.length_append, ← h.written]
    rfl
  nonempty := h.nonempty
  passed := h.passed
  ordered := h.ordered

/-- A flush closes a group with all that was taken since the last one, unless that is nothing. -/
theorem groups_flush (t : Traffic) :
    t.flush.groups = t.groups ∨
      ∃ bytes, bytes ≠ [] ∧ t.flush.groups = t.groups ++ [⟨t.delivered, bytes⟩] := by
  cases pending : t.pendingRev with
  | nil => exact .inl (by simp [flush, pending])
  | cons b rest => exact .inr ⟨(b :: rest).reverse, by simp, by simp [flush, pending, groups]⟩

@[simp] theorem written_flush (t : Traffic) : t.flush.written = t.written := by
  unfold flush
  split <;> rfl

theorem Sound.flush (h : t.Sound) : t.flush.Sound := by
  have written : t.flush.written = t.flush.taken.length := by rw [taken_flush, written_flush, h.written]
  rcases t.groups_flush with same | ⟨bytes, some, more⟩
  · refine ⟨written, ?_, ?_, ?_⟩ <;> rw [same]
    · exact h.nonempty
    · rw [delivered_flush]
      exact h.passed
    · exact h.ordered
  · refine ⟨written, ?_, ?_, ?_⟩ <;> rw [more]
    · exact List.forall_mem_append.2 ⟨h.nonempty, by simpa using some⟩
    · rw [delivered_flush]
      exact List.forall_mem_append.2 ⟨h.passed, by simp⟩
    · exact List.pairwise_append.2 ⟨h.ordered, List.pairwise_singleton .., by simpa using h.passed⟩

end Traffic

namespace Queued

variable {q q' : Queued} {n k : Nat} {bytes : Bytes} {e : DeviceFault}

/-- A read hands out the front of the queue. -/
theorem queue_of_read_ok (h : Port.read n q = (.ok bytes, q')) :
    q.incoming = bytes ++ q'.incoming ∧ q'.room = q.room := by
  change q.read n = _ at h
  unfold read at h
  split at h <;> cases h
  exact ⟨(List.take_append_drop ..).symm, rfl⟩

/-- A read that times out leaves the queue alone. -/
theorem queue_of_read_error (h : Port.read n q = (.error e, q')) :
    q'.incoming = q.incoming ∧ q'.room = q.room := by
  change q.read n = _ at h
  unfold read at h
  split at h <;> cases h
  exact ⟨rfl, rfl⟩

/-- A write uses up as much of the room as it takes, and there was so much of it. -/
theorem queue_of_write_ok (h : Port.write bytes q = (.ok k, q')) :
    q'.incoming = q.incoming ∧ q.room = q'.room.map (· + k) := by
  change q.write bytes = _ at h
  unfold write at h
  split at h <;> cases h
  refine ⟨rfl, ?_⟩
  cases hr : q.room with
  | none => rfl
  | some room =>
    have fits : (q.takes bytes).length ≤ room := by
      simp only [takes, hr, upTo]
      exact List.length_take_le ..
    simp [Nat.sub_add_cancel fits]

theorem queue_of_write_error (h : Port.write bytes q = (.error e, q')) : q' = q := by
  change q.write bytes = _ at h
  unfold write at h
  split at h <;> cases h
  rfl

/-- A call on a line over a queued port. -/
inductive RawCall where
  | read (count : Nat)
  | write (bytes : Bytes)
  | flush
  /-- More bytes are queued up. -/
  | push (bytes : Bytes)

/-- What calls moved. -/
structure Moved where
  delivered : Bytes := []
  accepted : Bytes := []
  pushed : Bytes := []
  deriving DecidableEq

/-- What was moved first, and then. -/
def Moved.andThen (m m' : Moved) : Moved :=
  ⟨m.delivered ++ m'.delivered, m.accepted ++ m'.accepted, m.pushed ++ m'.pushed⟩

/-- One call, and what it moved by what it gave back: the bytes of a read, and as many of the bytes offered
to a write as it says. -/
def raw (c : RawCall) (l : Line Queued) : Moved × Line Queued :=
  match c with
  | .read count =>
    match l.read count with
    | (.ok bytes, l') => ({ delivered := bytes }, l')
    | (.error _, l') => ({}, l')
  | .write bytes =>
    match l.write bytes with
    | (.ok count, l') => ({ accepted := bytes.take count }, l')
    | (.error _, l') => ({}, l')
  | .flush => ({}, l.flush.2)
  | .push bytes => ({ pushed := bytes }, { l with port := l.port.push bytes })

/-- Some calls, one after the other. -/
def rawAll : List RawCall → Line Queued → Moved × Line Queued
  | [], l => ({}, l)
  | c :: calls, l =>
    match raw c l with
    | (m, l') =>
      match rawAll calls l' with
      | (m', l'') => (m.andThen m', l'')

/-- Nothing was lost and nothing was invented since the port was the one at the beginning. -/
structure Accounts (q : Queued) (m : Moved) (l : Line Queued) : Prop where
  /-- What was delivered and what is still queued is what there was and what was queued up since. -/
  incoming : m.delivered ++ l.port.incoming = q.incoming ++ m.pushed
  delivered : l.traffic.delivered = m.delivered.length
  /-- What was accepted is in the groups, or pending behind them. -/
  accepted : m.accepted = l.traffic.taken
  /-- What is left of the room is what was not written. -/
  room : q.room = l.port.room.map (· + l.traffic.written)
  sound : l.traffic.Sound

variable {m : Moved} {l l' : Line Queued}

theorem accounts_fresh (q : Queued) : Accounts q {} { port := q } where
  incoming := by simp
  delivered := rfl
  accepted := rfl
  room := by simp
  sound := Traffic.sound_empty

/-- What a read delivered is no longer in the queue. -/
theorem Accounts.read (h : Accounts q m l) (hr : l.read n = (.ok bytes, l')) :
    Accounts q (m.andThen { delivered := bytes }) l' := by
  obtain ⟨queue, room⟩ := queue_of_read_ok (Line.port_of_read hr)
  obtain ⟨-, traffic⟩ := Line.traffic_of_read_ok hr
  constructor
  case incoming =>
    have incoming := h.incoming
    rw [queue] at incoming
    simpa [Moved.andThen] using incoming
  case delivered => simp [Moved.andThen, traffic, h.delivered]
  case accepted => simpa [Moved.andThen, traffic] using h.accepted
  case room =>
    rw [room, traffic]
    exact h.room
  case sound =>
    rw [traffic]
    exact h.sound.deliver _

/-- What a write accepted is pending. -/
theorem Accounts.write (h : Accounts q m l) (hw : l.write bytes = (.ok k, l')) :
    Accounts q (m.andThen { accepted := bytes.take k }) l' := by
  obtain ⟨queue, room⟩ := queue_of_write_ok (Line.port_of_write hw)
  obtain ⟨offered, traffic⟩ := Line.traffic_of_write_ok hw
  constructor
  case incoming => simpa [Moved.andThen, queue] using h.incoming
  case delivered => simp [Moved.andThen, traffic, h.delivered]
  case accepted => simp [Moved.andThen, traffic, h.accepted]
  case room =>
    -- The room that is left and the bytes written make up the room at the start, before and behind.
    rw [h.room, room, traffic, Option.map_map]
    congr 1
    funext left
    simp only [Function.comp, Traffic.take, List.length_take_of_le offered]
    omega
  case sound =>
    rw [traffic]
    exact h.sound.take _

/-- A call that fails moves nothing. -/
theorem Accounts.nothing (h : Accounts q m l) (queue : l'.port.incoming = l.port.incoming)
    (room : l'.port.room = l.port.room) (traffic : l'.traffic = l.traffic) :
    Accounts q (m.andThen {}) l' where
  incoming := by simpa [Moved.andThen, queue] using h.incoming
  delivered := by simp [Moved.andThen, traffic, h.delivered]
  accepted := by simpa [Moved.andThen, traffic] using h.accepted
  room := by rw [room, traffic, h.room]
  sound := traffic ▸ h.sound

/-- A flush closes a group over what was pending. -/
theorem Accounts.flush (h : Accounts q m l) : Accounts q (m.andThen {}) l.flush.2 := by
  have queue : l.flush.2.port = l.port := rfl
  have traffic : l.flush.2.traffic = l.traffic.flush := rfl
  constructor
  case incoming => simpa [Moved.andThen, queue] using h.incoming
  case delivered => simp [Moved.andThen, traffic, h.delivered]
  case accepted => simp [Moved.andThen, traffic, h.accepted]
  case room =>
    rw [queue, traffic, Traffic.written_flush]
    exact h.room
  case sound =>
    rw [traffic]
    exact h.sound.flush

/-- What is pushed is queued behind all the rest. -/
theorem Accounts.push (h : Accounts q m l) (bytes : Bytes) :
    Accounts q (m.andThen { pushed := bytes }) { l with port := l.port.push bytes } where
  incoming := by
    have incoming := congrArg (· ++ bytes) h.incoming
    simpa [Moved.andThen, Queued.push] using incoming
  delivered := by simpa [Moved.andThen] using h.delivered
  accepted := by simpa [Moved.andThen] using h.accepted
  room := h.room
  sound := h.sound

/-- The accounts go on over each call. -/
theorem Accounts.raw (h : Accounts q m l) (c : RawCall) :
    Accounts q (m.andThen (raw c l).1) (raw c l).2 := by
  cases c with
  | read count =>
    unfold Queued.raw
    dsimp only
    rcases hr : l.read count with ⟨e | bytes, l'⟩
    · obtain ⟨queue, room⟩ := queue_of_read_error (Line.port_of_read hr)
      exact h.nothing queue room (Line.traffic_of_read_error hr)
    · exact h.read hr
  | write bytes =>
    unfold Queued.raw
    dsimp only
    rcases hw : l.write bytes with ⟨e | k, l'⟩
    · have same := queue_of_write_error (Line.port_of_write hw)
      exact h.nothing (by rw [same]) (by rw [same]) (Line.traffic_of_write_error hw)
    · exact h.write hw
  | flush => exact h.flush
  | push bytes => exact h.push bytes

theorem Moved.andThen_assoc (m m' m'' : Moved) :
    (m.andThen m').andThen m'' = m.andThen (m'.andThen m'') := by
  simp [andThen]

theorem Accounts.rawAll (h : Accounts q m l) (calls : List RawCall) :
    Accounts q (m.andThen (rawAll calls l).1) (rawAll calls l).2 := by
  induction calls generalizing m l with
  | nil => exact h.nothing rfl rfl rfl
  | cons c calls ih =>
    have later := ih (h.raw c)
    rwa [Moved.andThen_assoc] at later

/-- Whatever is called on a queued port, no byte is lost and none is invented, and no more is written than
there is room for. -/
theorem loses_and_invents_nothing (q : Queued) (calls : List RawCall) :
    Accounts q (rawAll calls { port := q }).1 (rawAll calls { port := q }).2 ∧
      (rawAll calls { port := q }).2.traffic.written = (rawAll calls { port := q }).1.accepted.length ∧
      ∀ room, q.room = some room → (rawAll calls { port := q }).2.traffic.written ≤ room := by
  have accounts : Accounts q (rawAll calls { port := q }).1 (rawAll calls { port := q }).2 := by
    have all := (accounts_fresh q).rawAll calls
    simpa [Moved.andThen] using all
  generalize rawAll calls { port := q } = x at accounts
  refine ⟨accounts, ?_, ?_⟩
  · rw [accounts.sound.written, ← accounts.accepted]
  · intro room limited
    obtain ⟨left, -, rfl⟩ := Option.map_eq_some_iff.1 (accounts.room.symm.trans limited)
    exact Nat.le_add_left ..

/-- The first read times out, and the second brings one byte, which is the least that any limit lets through.
There is room for three bytes. -/
example :
    (rawAll [.read 2, .read 2, .push [3], .write [7, 8], .flush, .write [9, 9], .read 9]
        { port := { incoming := [1, 2], readLimit := some 0, stalls := 1, room := some 3 } }).1 =
      { delivered := [1, 2], accepted := [7, 8, 9], pushed := [3] } := by
  decide

end Queued

end BootHost
