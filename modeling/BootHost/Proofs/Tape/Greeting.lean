import BootHost.Proofs.Greeting
import BootHost.Proofs.Tape.Dialogue

/-!
# The greeting on a tape

`Start.GreetedBy` is the language of the greeting: what a board says to a host that ends up greeted.
On a tape with room for the magic, a greeting succeeds exactly when the incoming bytes begin with a
word of it, and it receives that word and no more.
-/

namespace BootHost

/-- What a board says in a greeting that succeeds: its acknowledgment behind any number of ready
bytes, of which the first ends the wait, and before that anything else. -/
inductive Start.GreetedBy : Start → Bytes → Prop where
  | nock (readies : Nat) :
      GreetedBy .nock (List.replicate readies Protocol.ready ++ [Protocol.ack])
  | awaitBoard {noise : Bytes} (quiet : Protocol.ready ∉ noise) (readies : Nat) :
      GreetedBy .awaitBoard
        (noise ++ Protocol.ready :: (List.replicate readies Protocol.ready ++ [Protocol.ack]))

namespace Tape

/-- The tape after a greeting that received `before` bytes ahead of the magic and `behind` bytes
after it. -/
def greeted (before behind : Nat) (t : Tape) : Tape :=
  ((t.deliver before).take Protocol.magic).flush.deliver behind

theorem greeted_incoming (before behind : Nat) (t : Tape) :
    (t.greeted before behind).incoming = t.incoming.drop (before + behind) := by
  simp [greeted, deliver, take, flush, List.drop_drop]

theorem greeted_room {t : Tape} (h : t.room = none) (before behind : Nat) :
    (t.greeted before behind).room = none := by
  simp [greeted, deliver, take, flush, h]

variable {t t' : Tape}

/-- A nock that succeeds has received ready bytes and an acknowledgment. -/
theorem incoming_of_nock (h : t.nock = (.ok (), t')) :
    ∃ readies rest, t.incoming = List.replicate readies Protocol.ready ++ Protocol.ack :: rest ∧
      t' = t.greeted 0 (readies + 1) := by
  unfold nock at h
  split at h
  · simp at h
  · rename_i u sent
    obtain rfl : (t.take Protocol.magic).flush = u := by
      unfold send at sent
      split at sent
      · exact (Prod.mk.inj sent).2
      · simp at sent
    split at h
    · simp at h
    · rename_i before b v heard
      split at h
      · rename_i isAck
        obtain rfl : v = t' := by simpa using h
        obtain ⟨hold, -, ⟨rest, cut⟩, rfl⟩ := incoming_of_receiveUpTo heard
        have readies : before = List.replicate before.length Protocol.ready := by
          rw [List.eq_replicate_iff]
          refine ⟨rfl, ?_⟩
          intro x hx
          simpa using hold x hx
        refine ⟨before.length, rest, ?_, rfl⟩
        rw [← readies, ← isAck]
        exact cut
      · simp at h

/-- The first byte behind the ready bytes decides a nock. -/
theorem nock_of_answer {readies : Nat} {b : UInt8} {rest : Bytes} (room : t.room = none)
    (hi : t.incoming = List.replicate readies Protocol.ready ++ b :: rest) (hb : b ≠ Protocol.ready) :
    t.nock = (if b = Protocol.ack then .ok () else .error (.refused .nock (.ofByte b)),
      t.greeted 0 (readies + 1)) := by
  have sent : t.send Protocol.magic = (.ok (), (t.take Protocol.magic).flush) := by
    simp [send, hasRoom, room]
  have heard : (t.take Protocol.magic).flush.receiveUpTo (· != Protocol.ready) =
      (.ok (List.replicate readies Protocol.ready, b), t.greeted 0 (readies + 1)) := by
    rw [receiveUpTo_of_incoming (t := (t.take Protocol.magic).flush) hi (by simp) (by simpa using hb),
      List.length_replicate]
    rfl
  unfold nock
  rw [sent]
  dsimp only
  rw [heard]
  dsimp only
  split <;> rfl

theorem nock_of_incoming {readies : Nat} {rest : Bytes} (room : t.room = none)
    (hi : t.incoming = List.replicate readies Protocol.ready ++ Protocol.ack :: rest) :
    t.nock = (.ok (), t.greeted 0 (readies + 1)) := by
  rw [nock_of_answer room hi (by decide), if_pos rfl]

/-- A greeting that succeeds has received a word of its language. -/
theorem incoming_of_greet {start : Start} (h : t.greet start = (.ok (), t')) :
    ∃ greeting rest before behind, start.GreetedBy greeting ∧ t.incoming = greeting ++ rest ∧
      before + behind = greeting.length ∧ t' = t.greeted before behind := by
  cases start with
  | nock =>
    obtain ⟨readies, rest, hi, rfl⟩ := incoming_of_nock h
    refine ⟨_, rest, 0, readies + 1, .nock readies, ?_, ?_, rfl⟩
    · rw [hi, List.append_assoc]
      rfl
    · simp
  | awaitBoard =>
    unfold greet at h
    dsimp only at h
    split at h
    · simp at h
    · rename_i heard u found
      obtain ⟨noise, b⟩ := heard
      obtain ⟨hold, pass, ⟨back, cut⟩, rfl⟩ := incoming_of_receiveUpTo found
      obtain ⟨readies, rest, hi, rfl⟩ := incoming_of_nock h
      have quiet : Protocol.ready ∉ noise := by
        intro hm
        simpa using hold _ hm
      have isReady : b = Protocol.ready := by simpa using pass
      have left : back = List.replicate readies Protocol.ready ++ Protocol.ack :: rest := by
        rw [← hi]
        simp [deliver, cut]
      refine ⟨_, rest, noise.length + 1, readies + 1, .awaitBoard quiet readies, ?_, ?_, ?_⟩
      · rw [cut, isReady, left]
        simp
      · simp only [List.length_append, List.length_cons, List.length_replicate, List.length_nil]
        omega
      · simp [greeted]

/-- A word of the language of a greeting makes it succeed. -/
theorem greet_of_incoming {start : Start} {greeting rest : Bytes} (room : t.room = none)
    (hg : start.GreetedBy greeting) (hi : t.incoming = greeting ++ rest) :
    ∃ before behind, before + behind = greeting.length ∧
      t.greet start = (.ok (), t.greeted before behind) := by
  cases hg with
  | nock readies =>
    refine ⟨0, readies + 1, by simp, ?_⟩
    apply nock_of_incoming room
    rw [hi, List.append_assoc]
    rfl
  | @awaitBoard noise quiet readies =>
    have cut : t.incoming = noise ++ Protocol.ready ::
        (List.replicate readies Protocol.ready ++ Protocol.ack :: rest) := by
      rw [hi]
      simp
    have hold : ∀ x ∈ noise, (x == Protocol.ready) = false := by
      intro x hx
      have other : x ≠ Protocol.ready := by
        rintro rfl
        exact quiet hx
      simpa using other
    have found : t.receiveUpTo (· == Protocol.ready) =
        (.ok (noise, Protocol.ready), t.deliver (noise.length + 1)) :=
      receiveUpTo_of_incoming cut hold (by decide)
    have left : (t.deliver (noise.length + 1)).incoming =
        List.replicate readies Protocol.ready ++ Protocol.ack :: rest := by
      simp [deliver, cut]
    refine ⟨noise.length + 1, readies + 1, ?_, ?_⟩
    · simp only [List.length_append, List.length_cons, List.length_replicate, List.length_nil]
      omega
    · unfold greet
      dsimp only
      rw [found]
      dsimp only
      rw [nock_of_incoming (t := t.deliver (noise.length + 1)) room left]
      simp [greeted]

end Tape

/-- Behind a greeting that received a word, the port has the rest to deliver. -/
theorem Line.Follows.plays_behind {σ : Type} [Port σ] [Taped σ] {l : Line σ} {t : Tape}
    {before behind : Nat} {greeting rest : Bytes} (h : l.Follows (t.greeted before behind))
    (room : t.room = none) (hi : t.incoming = greeting ++ rest) (both : before + behind = greeting.length) :
    Taped.Plays rest none l.port := by
  have left : (t.greeted before behind).incoming = rest := by
    rw [Tape.greeted_incoming, both, hi, List.drop_left]
  have plays := h.port
  rwa [left, Tape.greeted_room room] at plays

namespace Connection

variable {σ : Type} [Port σ] [Taped σ] {conn conn' : Connection σ} {start : Start} {t : Tape}

/-- A connection that is established over a line that follows a tape has received a word of the
greeting's language. -/
theorem incoming_of_connect (follows : conn.line.Follows t) (h : conn.connect start = (.ok (), conn')) :
    ∃ greeting rest before behind, start.GreetedBy greeting ∧ t.incoming = greeting ++ rest ∧
      before + behind = greeting.length ∧ conn'.line.Follows (t.greeted before behind) := by
  obtain ⟨t', ht, same⟩ := (greet_of_connect_ok h ▸ Line.greet_follows start follows).right
  obtain ⟨greeting, rest, before, behind, word, cut, both, rfl⟩ := Tape.incoming_of_greet ht
  exact ⟨greeting, rest, before, behind, word, cut, both, same⟩

/-- A word of the greeting's language establishes an idle connection. -/
theorem connect_of_incoming {greeting rest : Bytes} (idle : conn.phase = .idle)
    (follows : conn.line.Follows t) (room : t.room = none) (word : start.GreetedBy greeting)
    (hi : t.incoming = greeting ++ rest) :
    ∃ conn' before behind, conn.connect start = (.ok (), conn') ∧ before + behind = greeting.length ∧
      conn'.line.Follows (t.greeted before behind) := by
  obtain ⟨before, behind, both, ht⟩ := Tape.greet_of_incoming room word hi
  obtain ⟨l, hl, same⟩ := (ht ▸ Line.greet_follows start follows).left
  refine ⟨{ line := l, phase := .established }, before, behind, ?_, both, same⟩
  unfold connect
  rw [if_pos idle, hl]

end Connection

end BootHost
