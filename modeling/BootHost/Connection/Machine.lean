import BootHost.Connection

/-!
# The greeting as a machine

The greeting told as a machine of four states. A state that waits for something does its work over the
line and ends it with an event; `next?` has the transitions, and an event without a place in its state
leads nowhere. `drive` runs the machine to one of its two last states. Connecting an idle connection
is such a run (`drive_eq_connect`), so the machine never meets an event that it has no place for.
-/

namespace BootHost

namespace Greeting

/-- Where a greeting stands. -/
inductive State where
  | awaiting
  /-- The magic is due; so many bytes were dropped before the ready byte. -/
  | nocking (dropped : Nat)
  /-- Acknowledged, behind so many more ready bytes. -/
  | established (skipped : Nat)
  | failed (cause : Fault)

/-- What the work of a state comes to. -/
inductive Event where
  | found (dropped : Nat)
  | acknowledged (skipped : Nat)
  | failure (cause : Fault)

/-- The state in which a greeting begins. -/
def State.ofStart : Start → State
  | .awaitBoard => .awaiting
  | .nock => .nocking 0

namespace State

/-- The phase that a connection is in while its greeting is in a state. -/
def phase : State → Phase
  | .awaiting => .awaitingBoard
  | .nocking _ => .nocking
  | .established _ => .established
  | .failed _ => .failed

/-- The state that an event leads to, if it has a place in this one. -/
def next? : State → Event → Option State
  | .awaiting, .found dropped => some (.nocking dropped)
  | .nocking _, .acknowledged skipped => some (.established skipped)
  | .awaiting, .failure cause | .nocking _, .failure cause => some (.failed cause)
  | _, _ => none

/-- How many transitions there are at most. -/
def rank : State → Nat
  | .awaiting => 2
  | .nocking _ => 1
  | .established _ | .failed _ => 0

theorem rank_next?_lt {s s' : State} {event : Event} (h : s.next? event = some s') : s'.rank < s.rank := by
  cases s <;> cases event <;> simp only [next?, Option.some.injEq, reduceCtorEq] at h
  all_goals
    subst h
    simp [rank]

end State

variable {σ : Type} [Port σ]

/-- Listens for the ready byte. -/
def listen (l : Line σ) : Event × Line σ :=
  match ((l.note .awaiting).note .listening).awaitReady 0 with
  | (.ok dropped, l') => (.found dropped, l')
  | (.error e, l') => (.failure (.transport e), l')

/-- Sends the magic and waits for what answers it. -/
def nock (dropped : Nat) (l : Line σ) : Event × Line σ :=
  match (((l.note .nocking).noteStray dropped).note .greeting).send Protocol.magic with
  | (.error e, l') => (.failure (.transport e), l')
  | (.ok (), l') =>
    match l'.awaitAnswer 0 with
    | (.error e, l'') => (.failure (.transport e), l'')
    | (.ok (b, skipped), l'') =>
      if b = Protocol.ack then (.acknowledged skipped, l'')
      else (.failure (.refused .nock (.ofByte b)), l'')

namespace State

/-- One step: the work of a state and the transition behind it. The last states stay as they are. -/
def step (s : State) (l : Line σ) : Option State × Line σ :=
  match s with
  | .awaiting => match listen l with | (event, l') => (s.next? event, l')
  | .nocking dropped => match nock dropped l with | (event, l') => (s.next? event, l')
  | .established _ | .failed _ => (some s, l)

/-- A step that does not end the greeting brings it closer to its end. -/
theorem rank_step_lt {s s' : State} {l l' : Line σ} (h : s.step l = (some s', l')) (hs : 0 < s'.rank) :
    s'.rank < s.rank := by
  unfold step at h
  split at h
  · exact rank_next?_lt (congrArg Prod.fst h)
  · exact rank_next?_lt (congrArg Prod.fst h)
  all_goals
    obtain ⟨rfl, -⟩ : _ = s' ∧ _ := by simpa using h
    exact absurd hs (Nat.lt_irrefl 0)

/-- Runs the machine from a state until the greeting is over, and leaves the connection in the phase of
the last state. There is no result if the machine gets stuck on an event without a place. -/
def drive (s : State) (l : Line σ) : Option (Except Fault Unit × Connection σ) :=
  match _h : s.step l with
  | (none, _) => none
  | (some (.established skipped), l') =>
    some (.ok (), { line := l'.note (.trailing skipped), phase := (established skipped).phase })
  | (some (.failed cause), l') => some (.error cause, { line := l', phase := (failed cause).phase })
  | (some .awaiting, l') => drive .awaiting l'
  | (some (.nocking dropped), l') => drive (.nocking dropped) l'
termination_by s.rank
decreasing_by
  · exact rank_step_lt _h (by decide)
  · exact rank_step_lt _h (Nat.one_pos)

theorem drive_of_failed {s : State} {l l' : Line σ} {cause : Fault} (h : s.step l = (some (.failed cause), l')) :
    s.drive l = some (.error cause, { line := l', phase := .failed }) := by
  rw [drive]
  split <;> simp_all [phase]

theorem drive_of_established {s : State} {l l' : Line σ} {skipped : Nat}
    (h : s.step l = (some (.established skipped), l')) :
    s.drive l = some (.ok (), { line := l'.note (.trailing skipped), phase := .established }) := by
  rw [drive]
  split <;> simp_all [phase]

theorem drive_of_nocking {s : State} {l l' : Line σ} {dropped : Nat}
    (h : s.step l = (some (.nocking dropped), l')) : s.drive l = (nocking dropped).drive l' := by
  rw [drive]
  split <;> simp_all

end State

end Greeting

namespace Connection

open Greeting

variable {σ : Type} [Port σ]

/-- The connection that a greeting leaves behind, with its result. -/
def greeted : Except Fault Unit × Line σ → Except Fault Unit × Connection σ
  | (.ok (), l) => (.ok (), { line := l, phase := .established })
  | (.error e, l) => (.error e, { line := l, phase := .failed })

theorem connect_of_idle {conn : Connection σ} (idle : conn.phase = .idle) (start : Start) :
    conn.connect start = greeted (conn.line.greet start) := by
  unfold connect
  rw [if_pos idle]
  rcases conn.line.greet start with ⟨e | _, l⟩ <;> rfl

theorem drive_nocking (dropped : Nat) (l : Line σ) :
    (State.nocking dropped).drive l = some (greeted (l.nock dropped)) := by
  unfold Line.nock
  rcases sent : (((l.note .nocking).noteStray dropped).note .greeting).send Protocol.magic with ⟨e | _, m⟩
  · apply State.drive_of_failed
    simp [State.step, Greeting.nock, sent, State.next?]
  · dsimp only
    rcases heard : m.awaitAnswer 0 with ⟨e | ⟨b, skipped⟩, n⟩
    · apply State.drive_of_failed
      simp [State.step, Greeting.nock, sent, heard, State.next?]
    · dsimp only
      split
      · rename_i isAck
        apply State.drive_of_established
        simp [State.step, Greeting.nock, sent, heard, State.next?, isAck]
      · rename_i notAck
        apply State.drive_of_failed
        simp [State.step, Greeting.nock, sent, heard, State.next?, notAck]

/-- An idle connection is connected by a run of the machine, which never gets stuck. -/
theorem drive_eq_connect {conn : Connection σ} (idle : conn.phase = .idle) (start : Start) :
    (State.ofStart start).drive conn.line = some (conn.connect start) := by
  rw [connect_of_idle idle]
  cases start with
  | nock => exact drive_nocking 0 conn.line
  | awaitBoard =>
    unfold Line.greet
    rcases waited : ((conn.line.note .awaiting).note .listening).awaitReady 0 with ⟨e | dropped, m⟩
    · apply State.drive_of_failed
      simp [State.step, State.ofStart, Greeting.listen, waited, State.next?]
    · have found : (State.ofStart .awaitBoard).step conn.line = (some (.nocking dropped), m) := by
        simp [State.step, State.ofStart, Greeting.listen, waited, State.next?]
      rw [State.drive_of_nocking found, drive_nocking]

end Connection

end BootHost
