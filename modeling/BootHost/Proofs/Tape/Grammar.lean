import BootHost.Proofs.Likeness
import BootHost.Proofs.Lockstep
import Mathlib.Data.List.TakeWhile

/-!
# The grammar of the greeting

How a greeting ends is decided by the bytes that come in, and by nothing else. Behind the magic the
host skips ready bytes, so whatever comes in is ready bytes only, or ready bytes and a byte that
answers (`readies_or_answer`), and each of the two cases has one outcome on a tape. Ahead of the
magic every byte but the ready byte is noise. A wait that ends leaves a nock over what is behind the
ready byte (`greet_awaitBoard`), with the deliveries of the wait in front of it.
-/

namespace BootHost

/-- The byte that an answer was read from. -/
def Answer.byte : Answer → UInt8
  | .ack => Protocol.ack
  | .nack => Protocol.nack
  | .other b => b

@[simp] theorem Answer.byte_ofByte (b : UInt8) : (ofByte b).byte = b := by
  unfold ofByte
  split
  · simp_all [byte]
  · split <;> simp_all [byte]

/-- Answers to different bytes are different. -/
theorem Answer.ofByte_injective {b c : UInt8} (h : Answer.ofByte b = .ofByte c) : b = c := by
  rw [← byte_ofByte b, h, byte_ofByte]

/-- Bytes are ready bytes only, or there is a first one behind them that is another byte. -/
theorem readies_or_answer (incoming : Bytes) :
    (∃ readies, incoming = List.replicate readies Protocol.ready) ∨
      ∃ readies b rest, b ≠ Protocol.ready ∧
        incoming = List.replicate readies Protocol.ready ++ b :: rest := by
  induction incoming with
  | nil => exact .inl ⟨0, rfl⟩
  | cons c incoming ih =>
    by_cases hc : c = Protocol.ready
    · subst hc
      rcases ih with ⟨readies, rfl⟩ | ⟨readies, b, rest, hb, rfl⟩
      · exact .inl ⟨readies + 1, rfl⟩
      · exact .inr ⟨readies + 1, b, rest, hb, rfl⟩
    · exact .inr ⟨0, c, incoming, hc, rfl⟩

namespace Tape

variable {t : Tape}

/-- Without a byte that the test lets pass, all there is is received in vain. -/
theorem receiveUpTo_of_held {test : UInt8 → Bool} (hold : ∀ x ∈ t.incoming, test x = false) :
    t.receiveUpTo test = (.error (.closedAfter 0 1), t.deliver t.incoming.length) := by
  have none : t.incoming.dropWhile (!test ·) = [] := by
    rw [List.dropWhile_eq_nil_iff]
    intro x hx
    rw [hold x hx, Bool.not_false]
  rw [receiveUpTo, none]

/-- A nock that hears ready bytes only hears the line close. -/
theorem nock_of_readies {readies : Nat} (room : t.room = none)
    (hi : t.incoming = List.replicate readies Protocol.ready) :
    t.nock = (.error (.transport (.closedAfter 0 1)), t.greeted 0 readies) := by
  have sent : t.send Protocol.magic = (.ok (), (t.take Protocol.magic).flush) := by
    simp [send, hasRoom, room]
  have left : (t.take Protocol.magic).flush.incoming = List.replicate readies Protocol.ready := hi
  have heard : (t.take Protocol.magic).flush.receiveUpTo (· != Protocol.ready) =
      (.error (.closedAfter 0 1), t.greeted 0 readies) := by
    rw [receiveUpTo_of_held (by simp [left]), left, List.length_replicate]
    rfl
  unfold nock
  rw [sent]
  dsimp only
  rw [heard]

/-- A nock leaves the magic, and some of the incoming bytes, behind it. -/
theorem nock_greets (room : t.room = none) : ∃ behind, t.nock.2 = t.greeted 0 behind := by
  rcases readies_or_answer t.incoming with ⟨readies, hi⟩ | ⟨readies, b, rest, hb, hi⟩
  · exact ⟨readies, by rw [nock_of_readies room hi]⟩
  · exact ⟨readies + 1, by rw [nock_of_answer room hi hb]⟩

theorem nock_ok_iff (room : t.room = none) :
    t.nock.1 = .ok () ↔
      ∃ readies rest, t.incoming = List.replicate readies Protocol.ready ++ Protocol.ack :: rest := by
  constructor
  · intro ok
    obtain ⟨readies, rest, hi, -⟩ := incoming_of_nock (Prod.ext ok rfl)
    exact ⟨readies, rest, hi⟩
  · rintro ⟨readies, rest, hi⟩
    rw [nock_of_incoming room hi]

theorem nock_refused_iff (room : t.room = none) (b : UInt8) :
    t.nock.1 = .error (.refused .nock (.ofByte b)) ↔
      b ≠ Protocol.ready ∧ b ≠ Protocol.ack ∧
        ∃ readies rest, t.incoming = List.replicate readies Protocol.ready ++ b :: rest := by
  constructor
  · intro refused
    rcases readies_or_answer t.incoming with ⟨readies, hi⟩ | ⟨readies, c, rest, hc, hi⟩
    · rw [nock_of_readies room hi] at refused
      simp at refused
    · rw [nock_of_answer room hi hc] at refused
      dsimp only at refused
      split at refused
      · simp at refused
      · rename_i other
        obtain rfl : c = b := Answer.ofByte_injective (by simpa using refused)
        exact ⟨hc, other, readies, rest, hi⟩
  · rintro ⟨hb, other, readies, rest, hi⟩
    rw [nock_of_answer room hi hb, if_neg other]

theorem nock_closed_iff (room : t.room = none) :
    (∃ e, t.nock.1 = .error (.transport e) ∧ e.kind = .unexpectedEnd) ↔
      ∃ readies, t.incoming = List.replicate readies Protocol.ready := by
  constructor
  · rintro ⟨e, closed, -⟩
    rcases readies_or_answer t.incoming with only | ⟨readies, b, rest, hb, hi⟩
    · exact only
    · rw [nock_of_answer room hi hb] at closed
      dsimp only at closed
      split at closed <;> simp at closed
  · rintro ⟨readies, hi⟩
    rw [nock_of_readies room hi]
    exact ⟨.closedAfter 0 1, rfl, rfl⟩

theorem receiveUpTo_later (d : Nat) (test : UInt8 → Bool) (t : Tape) :
    Agree (IsLater d) (t.receiveUpTo test) ((t.later d).receiveUpTo test) := by
  have same : (t.later d).incoming = t.incoming := rfl
  unfold receiveUpTo
  rw [same]
  split <;> exact .of (deliver_later d _ t)

theorem nock_later (d : Nat) (t : Tape) : Agree (IsLater d) t.nock (t.later d).nock := by
  obtain ⟨r, t₁, t₂, h₁, h₂, rfl⟩ := (send_later d Protocol.magic t).cases
  unfold nock
  rw [h₁, h₂]
  cases r with
  | error e => exact .of rfl
  | ok _ =>
    obtain ⟨r, u₁, u₂, k₁, k₂, heard⟩ := (receiveUpTo_later d (· != Protocol.ready) t₁).cases
    simp only [k₁, k₂]
    cases r with
    | error e => exact .of heard
    | ok answer =>
      dsimp only
      split <;> exact .of heard

/-- A wait that ends is followed by a nock over what is left. -/
theorem greet_awaitBoard {noise rest : Bytes} (quiet : Protocol.ready ∉ noise)
    (hi : t.incoming = noise ++ Protocol.ready :: rest) :
    t.greet .awaitBoard = (t.deliver (noise.length + 1)).nock := by
  have hold : ∀ x ∈ noise, (x == Protocol.ready) = false := by
    intro x hx
    rw [beq_eq_false_iff_ne]
    rintro rfl
    exact quiet hx
  unfold greet
  dsimp only
  rw [receiveUpTo_of_incoming hi hold (by decide)]

/-- A wait that ends leaves the greeting that does not wait, with the deliveries of the wait in
front of it. -/
theorem greet_later {noise : Bytes} (quiet : Protocol.ready ∉ noise) (rest : Bytes) (room : Option Nat) :
    Agree (IsLater (noise.length + 1)) (greet .nock ⟨rest, room, {}⟩)
      (greet .awaitBoard ⟨noise ++ Protocol.ready :: rest, room, {}⟩) := by
  have waited : deliver (noise.length + 1) ⟨noise ++ Protocol.ready :: rest, room, {}⟩ =
      later (noise.length + 1) ⟨rest, room, {}⟩ := by
    simp [deliver, later, Traffic.deliver, Traffic.later]
  rw [greet_awaitBoard quiet rfl, waited]
  exact nock_later (noise.length + 1) ⟨rest, room, {}⟩

/-- A wait without an end hears the line close. -/
theorem greet_awaitBoard_of_silence (silent : Protocol.ready ∉ t.incoming) :
    t.greet .awaitBoard = (.error (.transport (.closedAfter 0 1)), t.deliver t.incoming.length) := by
  have hold : ∀ x ∈ t.incoming, (x == Protocol.ready) = false := by
    intro x hx
    rw [beq_eq_false_iff_ne]
    rintro rfl
    exact silent hx
  unfold greet
  dsimp only
  rw [receiveUpTo_of_held hold]

end Tape

/-- The phase in which a greeting with this result ends. -/
def Phase.ofGreeting : Except Fault Unit → Phase
  | .ok () => .established
  | .error _ => .failed

theorem Phase.ofGreeting_eq_established_iff {r : Except Fault Unit} :
    ofGreeting r = .established ↔ r = .ok () := by
  cases r <;> simp [ofGreeting]

variable {σ τ : Type} [Port σ] [Port τ]

namespace Connection

/-- An idle connection ends as the tape that its line follows. -/
theorem connect_follows [Taped σ] {conn : Connection σ} {t : Tape} (start : Start) (idle : conn.phase = .idle)
    (follows : conn.line.Follows t) :
    ∃ l, conn.connect start = ((t.greet start).1, ⟨l, .ofGreeting (t.greet start).1⟩) ∧
      l.Follows (t.greet start).2 := by
  obtain ⟨r, l, t', hl, ht, same⟩ := (Line.greet_follows start follows).cases
  refine ⟨l, ?_, by rwa [ht]⟩
  unfold connect
  rw [if_pos idle, hl, ht]
  cases r <;> rfl

/-- How a nock ends that is told nothing but `incoming`. -/
structure NockEnds [Taped σ] (incoming : Bytes) (x : Except Fault Unit × Connection σ) : Prop where
  /-- The magic is all that was sent, and nothing had come in by then. -/
  magic : x.2.line.traffic.groups = [⟨0, Protocol.magic⟩] ∧ x.2.line.traffic.pendingRev = []
  established : x.1 = .ok () ∧ x.2.phase = .established ↔
    ∃ readies rest, incoming = List.replicate readies Protocol.ready ++ Protocol.ack :: rest
  refused (b : UInt8) : x.1 = .error (.refused .nock (.ofByte b)) ∧ x.2.phase = .failed ↔
    b ≠ Protocol.ready ∧ b ≠ Protocol.ack ∧
      ∃ readies rest, incoming = List.replicate readies Protocol.ready ++ b :: rest
  closed : (∃ e, x.1 = .error (.transport e) ∧ e.kind = .unexpectedEnd) ∧ x.2.phase = .failed ↔
    ∃ readies, incoming = List.replicate readies Protocol.ready
  /-- The byte that answers is the last one that is received. -/
  consumed (readies : Nat) {b : UInt8} {rest : Bytes} : b ≠ Protocol.ready →
    incoming = List.replicate readies Protocol.ready ++ b :: rest →
    x.2.line.traffic.delivered = readies + 1 ∧ Taped.Plays rest none x.2.line.port

/-- A greeting that waited is a nock that started behind `waited` bytes. -/
structure NockedAfter [Taped σ] [Taped τ] (waited : Nat) (x : Except Fault Unit × Connection σ)
    (y : Except Fault Unit × Connection τ) : Prop where
  result : x.1 = y.1
  phase : x.2.phase = y.2.phase
  /-- The magic is all that was sent, when the wait was over. -/
  magic : x.2.line.traffic.groups = [⟨waited, Protocol.magic⟩] ∧ x.2.line.traffic.pendingRev = []
  traffic : x.2.line.traffic = y.2.line.traffic.later waited
  /-- The same is left to come in. -/
  left : ∃ left, Taped.Plays left none x.2.line.port ∧ Taped.Plays left none y.2.line.port

/-- A greeting that never heard the board, and never spoke to it. -/
structure Unheard (x : Except Fault Unit × Connection σ) : Prop where
  result : ∃ e, x.1 = .error (.transport e) ∧ e.kind = .unexpectedEnd
  phase : x.2.phase = .failed
  silent : x.2.line.traffic.taken = [] ∧ x.2.line.traffic.groups = []

variable [Taped σ] [Taped τ]

theorem nockEnds_of_plays {incoming : Bytes} {p : σ} (hp : Taped.Plays incoming none p) :
    NockEnds incoming ((ofPort p).connect .nock) := by
  have fresh : (ofPort p).line.Follows ⟨incoming, none, {}⟩ := ⟨hp, rfl⟩
  obtain ⟨l, hc, follows⟩ := connect_follows .nock rfl fresh
  rw [hc]
  simp only [Tape.greet] at follows ⊢
  constructor
  case magic =>
    obtain ⟨behind, left⟩ := Tape.nock_greets (t := ⟨incoming, none, {}⟩) rfl
    rw [left] at follows
    exact ⟨follows.opening.1, follows.opening.2.1⟩
  case established =>
    rw [Phase.ofGreeting_eq_established_iff, and_self]
    exact Tape.nock_ok_iff rfl
  case refused =>
    intro b
    rw [and_iff_left_of_imp]
    · exact Tape.nock_refused_iff rfl b
    · intro refused
      rw [refused, Phase.ofGreeting]
  case closed =>
    rw [and_iff_left_of_imp]
    · exact Tape.nock_closed_iff rfl
    · rintro ⟨e, closed, -⟩
      rw [closed, Phase.ofGreeting]
  case consumed =>
    intro readies b rest hb hi
    have cut : incoming = (List.replicate readies Protocol.ready ++ [b]) ++ rest := by simpa using hi
    rw [Tape.nock_of_answer rfl hi hb] at follows
    refine ⟨by simpa using follows.opening.2.2, ?_⟩
    exact follows.plays_behind rfl cut (by simp)

theorem nockedAfter_of_plays {noise rest : Bytes} {p : σ} {q : τ} (quiet : Protocol.ready ∉ noise)
    (hp : Taped.Plays (noise ++ Protocol.ready :: rest) none p) (hq : Taped.Plays rest none q) :
    NockedAfter (noise.length + 1) ((ofPort p).connect .awaitBoard) ((ofPort q).connect .nock) := by
  have fresh : (ofPort p).line.Follows ⟨noise ++ Protocol.ready :: rest, none, {}⟩ := ⟨hp, rfl⟩
  have fresh' : (ofPort q).line.Follows ⟨rest, none, {}⟩ := ⟨hq, rfl⟩
  obtain ⟨l, hc, follows⟩ := connect_follows .awaitBoard rfl fresh
  obtain ⟨m, hd, follows'⟩ := connect_follows .nock rfl fresh'
  -- behind the wait is the tape of the nock, with the deliveries of the wait in front of it
  obtain ⟨r, t, t', nocked, later, rfl⟩ := (Tape.greet_later quiet rest none).cases
  obtain ⟨behind, greeted⟩ := Tape.nock_greets (t := ⟨rest, none, {}⟩) rfl
  have left : t = Tape.greeted 0 behind ⟨rest, none, {}⟩ := (congrArg Prod.snd nocked).symm.trans greeted
  rw [later] at hc follows
  rw [nocked] at hd follows'
  subst left
  rw [hc, hd]
  have traffic : l.traffic = m.traffic.later (noise.length + 1) := by
    rw [follows.traffic, follows'.traffic, Tape.later]
  obtain ⟨groups, pending, -⟩ := follows'.opening
  refine ⟨rfl, rfl, ⟨?_, ?_⟩, traffic, _, follows.port, follows'.port⟩
  · rw [traffic]
    simp only [Traffic.groups, Traffic.later, ← List.map_reverse] at groups ⊢
    rw [groups, List.map_singleton, Nat.zero_add]
  · rw [traffic]
    exact pending

theorem unheard_of_plays {incoming : Bytes} {p : σ} (silent : Protocol.ready ∉ incoming)
    (hp : Taped.Plays incoming none p) : Unheard ((ofPort p).connect .awaitBoard) := by
  have fresh : (ofPort p).line.Follows ⟨incoming, none, {}⟩ := ⟨hp, rfl⟩
  obtain ⟨l, hc, follows⟩ := connect_follows .awaitBoard rfl fresh
  rw [Tape.greet_awaitBoard_of_silence silent] at hc follows
  rw [hc]
  refine ⟨⟨.closedAfter 0 1, rfl, rfl⟩, rfl, ?_⟩
  rw [follows.traffic]
  exact ⟨rfl, rfl⟩

/-- The grammar of the greeting, over every port that takes all it is offered and delivers
`incoming`, in whatever pieces, before it closes. A nock sends the magic and ends by what comes in
behind it. A wait ends with the first ready byte, sends nothing before that, and goes on as a nock
over what is left. -/
theorem connect_follows_grammar {incoming : Bytes} {p : σ} (hp : Taped.Plays incoming none p) :
    NockEnds incoming ((ofPort p).connect .nock) ∧
    (∀ noise rest, incoming = noise ++ Protocol.ready :: rest → Protocol.ready ∉ noise →
      ∀ q : τ, Taped.Plays rest none q →
        NockedAfter (noise.length + 1) ((ofPort p).connect .awaitBoard) ((ofPort q).connect .nock)) ∧
    (Protocol.ready ∉ incoming → Unheard ((ofPort p).connect .awaitBoard)) := by
  refine ⟨nockEnds_of_plays hp, ?_, ?_⟩
  · rintro noise rest rfl quiet q hq
    exact nockedAfter_of_plays quiet hp hq
  · intro silent
    exact unheard_of_plays silent hp

/-- A board that hesitates, behind a line that takes three bytes at most: noise, two ready bytes, an
acknowledgment and one byte more. -/
def hesitant : Scripted where
  reads := [.fault (.plain .timedOut), .data [0x4E, 0x41], .fault (.plain .interrupted),
    .data [0x41, 0x59, 0x07]]
  writes := [.upTo 3, .fault (.plain .timedOut), .upTo 1]

/-- The same board behind its first ready byte, over a line without delays. -/
def awake : Scripted where
  reads := [.data [0x41, 0x59, 0x07]]

/-- Told to nock at once, the host takes the noise for a refusal; told to wait, it sends the magic
behind two bytes, is greeted behind four, and leaves the last one. A board that only makes noise is
never nocked. -/
theorem connect_follows_grammar_of_hesitant_board :
    Taped.Plays [0x4E, 0x41, 0x41, 0x59, 0x07] none hesitant ∧
      (((ofPort hesitant).connect .nock).1 = .error (.refused .nock .nack) ∧
        ((ofPort hesitant).connect .nock).2.line.traffic.delivered = 1) ∧
      (((ofPort hesitant).connect .awaitBoard).1 = .ok () ∧
        ((ofPort hesitant).connect .awaitBoard).2.line.traffic.groups = [⟨2, Protocol.magic⟩] ∧
        ((ofPort hesitant).connect .awaitBoard).2.line.traffic.delivered = 4) ∧
      Unheard ((ofPort (Scripted.mk [.data [0x4E]] [] [])).connect .awaitBoard) := by
  have plays : Taped.Plays [0x4E, 0x41, 0x41, 0x59, 0x07] none hesitant :=
    Scripted.Fragments.plays
      { reads := .fault rfl (@Piece.Spells.data _ _ [0x41] _ _
          (.fault rfl (@Piece.Spells.data _ _ [0x59, 0x07] _ _ .nil)))
        writes := by simp [hesitant, Acceptance.IsSmooth, DeviceFault.isTransient, DeviceFault.plain]
        flushes := by simp [hesitant] }
  have playsRest : Taped.Plays [0x41, 0x59, 0x07] none awake :=
    Scripted.Fragments.plays
      { reads := @Piece.Spells.data _ _ [0x59, 0x07] _ _ .nil
        writes := by simp [awake]
        flushes := by simp [awake] }
  have playsNoise : Taped.Plays [0x4E] none (Scripted.mk [.data [0x4E]] [] []) :=
    Scripted.Fragments.plays
      { reads := @Piece.Spells.data _ _ [] _ _ .nil
        writes := by simp
        flushes := by simp }
  obtain ⟨nocked, waited, -⟩ := connect_follows_grammar (τ := Scripted) plays
  obtain ⟨rest, -⟩ := connect_follows_grammar (τ := Scripted) playsRest
  obtain ⟨-, -, unheard⟩ := connect_follows_grammar (τ := Scripted) playsNoise
  have behind := waited [0x4E] _ rfl (by decide) awake playsRest
  refine ⟨plays, ⟨?_, ?_⟩, ⟨?_, behind.magic.1, ?_⟩, unheard (by decide)⟩
  · exact ((nocked.refused 0x4E).2 ⟨by decide, by decide, 0, _, rfl⟩).1
  · exact (nocked.consumed 0 (b := 0x4E) (by decide) rfl).1
  · exact behind.result.trans (rest.established.2 ⟨1, _, rfl⟩).1
  · rw [behind.traffic]
    have heard := (rest.consumed 1 (b := 0x59) (by decide) rfl).1
    simp [Traffic.later, heard]

end Connection

end BootHost
