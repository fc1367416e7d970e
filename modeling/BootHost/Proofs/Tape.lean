import BootHost.Connection.Greeting
import BootHost.Port.Queued
import BootHost.Proofs.Transfer

/-!
# Tapes

A tape is a line with nothing in its way: all that will ever come is there from the start, every
transfer is one step, and only the end of the incoming bytes or a broken cable stops it. A port is
taped when some of its states play a tape, call by call, with whatever fragments and transient
faults in between; the line over it then follows the tape, transfer by transfer (`send_follows`,
`receive_follows`). So everything that a program sees of such a line is what the tape says.
-/

namespace BootHost

/-- Two calls give the same result, and states that belong together. -/
structure Agree {ρ α β : Type} (rel : α → β → Prop) (x : ρ × α) (y : ρ × β) : Prop where
  result : x.1 = y.1
  state : rel x.2 y.2

theorem Agree.of {ρ α β : Type} {rel : α → β → Prop} {r : ρ} {a : α} {b : β} (h : rel a b) :
    Agree rel (r, a) (r, b) := ⟨rfl, h⟩

theorem Agree.cases {ρ α β : Type} {rel : α → β → Prop} {x : ρ × α} {y : ρ × β}
    (h : Agree rel x y) : ∃ r a b, x = (r, a) ∧ y = (r, b) ∧ rel a b := by
  obtain ⟨r, a⟩ := x
  obtain ⟨s, b⟩ := y
  obtain rfl : r = s := h.result
  exact ⟨r, a, b, rfl, rfl, h.state⟩

theorem Agree.left {ρ α β : Type} {rel : α → β → Prop} {x : ρ × α} {r : ρ} {b : β}
    (h : Agree rel x (r, b)) : ∃ a, x = (r, a) ∧ rel a b :=
  ⟨x.2, Prod.ext h.result rfl, h.state⟩

theorem Agree.right {ρ α β : Type} {rel : α → β → Prop} {y : ρ × β} {r : ρ} {a : α}
    (h : Agree rel (r, a) y) : ∃ b, y = (r, b) ∧ rel a b :=
  ⟨y.2, Prod.ext h.result.symm rfl, h.state⟩

/-- A line with nothing in its way. -/
structure Tape where
  /-- All that the line will still deliver. -/
  incoming : Bytes
  /-- How many bytes the line takes before it breaks. -/
  room : Option Nat := none
  traffic : Traffic := {}

namespace Tape

/-- The tape after some bytes were delivered. -/
def deliver (count : Nat) (t : Tape) : Tape :=
  { t with incoming := t.incoming.drop count, traffic := t.traffic.deliver count }

/-- The tape after some bytes were taken. -/
def take (bytes : Bytes) (t : Tape) : Tape :=
  { t with room := t.room.map (· - bytes.length), traffic := t.traffic.take bytes }

/-- The tape after what was taken is pushed out. -/
def flush (t : Tape) : Tape := { t with traffic := t.traffic.flush }

/-- There is room for a number of bytes. -/
def hasRoom (count : Nat) (t : Tape) : Bool := t.room.all (count ≤ ·)

/-- Sends bytes: all of them, or as many as there is room for. -/
def send (bytes : Bytes) (t : Tape) : Except DeviceFault Unit × Tape :=
  if t.hasRoom bytes.length then (.ok (), (t.take bytes).flush)
  else (.error Queued.cablePulled, t.take (bytes.take (t.room.getD 0)))

/-- Receives a number of bytes, or all there are. -/
def receive (count : Nat) (t : Tape) : Except DeviceFault Bytes × Tape :=
  if count ≤ t.incoming.length then (.ok (t.incoming.take count), t.deliver count)
  else (.error (.closedAfter t.incoming.length count), t.deliver t.incoming.length)

/-- Receives one byte. -/
def receiveByte (t : Tape) : Except DeviceFault UInt8 × Tape :=
  match t.incoming with
  | [] => (.error (.closedAfter 0 1), t)
  | b :: _ => (.ok b, t.deliver 1)

/-- Receives up to the first byte that a test lets pass; the result is what came before it, and
that byte. -/
def receiveUpTo (test : UInt8 → Bool) (t : Tape) : Except DeviceFault (Bytes × UInt8) × Tape :=
  match t.incoming.dropWhile (!test ·) with
  | [] => (.error (.closedAfter 0 1), t.deliver t.incoming.length)
  | b :: _ =>
    (.ok (t.incoming.takeWhile (!test ·), b), t.deliver ((t.incoming.takeWhile (!test ·)).length + 1))

@[simp] theorem take_nil (t : Tape) : t.take [] = t := by
  simp [take]

theorem take_take (first second : Bytes) (t : Tape) :
    (t.take first).take second = t.take (first ++ second) := by
  cases h : t.room <;> simp [take, Traffic.take_take, h, Nat.sub_sub]

@[simp] theorem deliver_zero (t : Tape) : t.deliver 0 = t := rfl

theorem deliver_deliver (first second : Nat) (t : Tape) :
    (t.deliver first).deliver second = t.deliver (first + second) := by
  simp [deliver, Traffic.deliver_deliver, List.drop_drop]

/-- What there is room for can be sent ahead of the rest. -/
theorem send_append {first second : Bytes} {t : Tape} (h : t.hasRoom first.length = true) :
    t.send (first ++ second) = (t.take first).send second := by
  cases hr : t.room with
  | none => simp [send, hasRoom, hr, take_take, (by simp [take, hr] : (t.take first).room = none)]
  | some room =>
    have fits : first.length ≤ room := by simpa [hasRoom, hr] using h
    have left : (t.take first).room = some (room - first.length) := by simp [take, hr]
    simp only [send, hasRoom, hr, left, Option.all_some, Option.getD_some, decide_eq_true_eq,
      List.length_append, take_take, List.take_append, List.take_of_length_le fits]
    simp only [show first.length + second.length ≤ room ↔ second.length ≤ room - first.length by omega]

theorem receiveUpTo_nil {test : UInt8 → Bool} {t : Tape} (h : t.incoming = []) :
    t.receiveUpTo test = (.error (.closedAfter 0 1), t) := by
  simp [receiveUpTo, h]

/-- A byte that the test lets pass is received alone. -/
theorem receiveUpTo_pass {test : UInt8 → Bool} {b : UInt8} {rest : Bytes} {t : Tape}
    (h : t.incoming = b :: rest) (hb : test b = true) :
    t.receiveUpTo test = (.ok ([], b), t.deliver 1) := by
  simp [receiveUpTo, h, hb]

/-- A byte that the test does not let pass is received ahead of the rest. -/
theorem receiveUpTo_hold {test : UInt8 → Bool} {b : UInt8} {rest : Bytes} {t : Tape}
    (h : t.incoming = b :: rest) (hb : test b = false) :
    t.receiveUpTo test =
      match (t.deliver 1).receiveUpTo test with
      | (.ok (before, c), t') => (.ok (b :: before, c), t')
      | (.error e, t') => (.error e, t') := by
  have next : (t.deliver 1).incoming = rest := by simp [deliver, h]
  simp only [receiveUpTo, h, next, List.dropWhile_cons, List.takeWhile_cons, hb, Bool.not_false,
    if_true, deliver_deliver]
  split <;> simp [Nat.add_comm]

/-- Bytes that the test does not let pass, and one that it does. -/
theorem receiveUpTo_of_incoming {test : UInt8 → Bool} {before rest : Bytes} {b : UInt8} {t : Tape}
    (hi : t.incoming = before ++ b :: rest) (hold : ∀ x ∈ before, test x = false) (pass : test b = true) :
    t.receiveUpTo test = (.ok (before, b), t.deliver (before.length + 1)) := by
  induction before generalizing t with
  | nil => exact receiveUpTo_pass hi pass
  | cons c before ih =>
    have next : (t.deliver 1).incoming = before ++ b :: rest := by simp [deliver, hi]
    have later : ∀ x ∈ before, test x = false := by
      intro x hx
      exact hold x (List.mem_cons_of_mem c hx)
    rw [receiveUpTo_hold hi (hold c List.mem_cons_self), ih next later]
    simp only [deliver_deliver, List.length_cons, Nat.add_comm 1]

theorem incoming_of_receiveUpTo {test : UInt8 → Bool} {before : Bytes} {b : UInt8} {t t' : Tape}
    (h : t.receiveUpTo test = (.ok (before, b), t')) :
    (∀ x ∈ before, test x = false) ∧ test b = true ∧ (∃ rest, t.incoming = before ++ b :: rest) ∧
      t' = t.deliver (before.length + 1) := by
  generalize hi : t.incoming = incoming
  induction incoming generalizing t before with
  | nil =>
    rw [receiveUpTo_nil hi] at h
    simp at h
  | cons c incoming ih =>
    cases hc : test c with
    | true =>
      rw [receiveUpTo_pass hi hc] at h
      obtain ⟨⟨rfl, rfl⟩, rfl⟩ : ([] = before ∧ c = b) ∧ t.deliver 1 = t' := by simpa using h
      exact ⟨by simp, hc, ⟨incoming, rfl⟩, rfl⟩
    | false =>
      have next : (t.deliver 1).incoming = incoming := by simp [deliver, hi]
      rw [receiveUpTo_hold hi hc] at h
      split at h
      · rename_i later d u hu
        obtain ⟨⟨rfl, rfl⟩, rfl⟩ : (c :: later = before ∧ d = b) ∧ u = t' := by simpa using h
        obtain ⟨hold, pass, ⟨rest, cut⟩, rfl⟩ := ih hu next
        refine ⟨?_, pass, ⟨rest, by rw [cut, List.cons_append]⟩, ?_⟩
        · intro x hx
          rcases List.mem_cons.1 hx with rfl | hx
          · exact hc
          · exact hold x hx
        · rw [deliver_deliver, List.length_cons, Nat.add_comm 1]
      · simp at h

end Tape

/-- A port of which some states play a tape. -/
class Taped (σ : Type) [Port σ] where
  /-- The state has these bytes to deliver, and so much room. -/
  Plays : Bytes → Option Nat → σ → Prop
  read_plays {incoming : Bytes} {room : Option Nat} {s : σ} {n : Nat} :
    Plays incoming room s → 0 < n →
    (∃ e s', Port.read n s = (.error e, s') ∧ e.isTransient = true ∧ Plays incoming room s') ∨
    ∃ bytes back s', Port.read n s = (.ok bytes, s') ∧ incoming = bytes ++ back ∧
      (bytes = [] → incoming = []) ∧ Plays back room s'
  write_plays {incoming bytes : Bytes} {room : Option Nat} {s : σ} :
    Plays incoming room s → bytes ≠ [] →
    (∃ e s', Port.write bytes s = (.error e, s') ∧ e.isTransient = true ∧ Plays incoming room s') ∨
    (room = some 0 ∧ ∃ s', Port.write bytes s = (.error Queued.cablePulled, s') ∧
      Plays incoming room s') ∨
    ∃ k s', Port.write bytes s = (.ok (k + 1), s') ∧ room.all (k + 1 ≤ ·) = true ∧
      Plays incoming (room.map (· - (k + 1))) s'
  flush_plays {incoming : Bytes} {room : Option Nat} {s : σ} :
    Plays incoming room s → ∃ s', Port.flush s = (.ok (), s') ∧ Plays incoming room s'

namespace Line

variable {σ : Type} [Port σ] [Taped σ]

/-- The port of the line plays the tape, and the same has gone over both. -/
structure Follows (l : Line σ) (t : Tape) : Prop where
  port : Taped.Plays t.incoming t.room l.port
  traffic : l.traffic = t.traffic

variable {l : Line σ} {t : Tape}

theorem Follows.note (n : Note) (h : l.Follows t) : (l.note n).Follows t := ⟨h.port, h.traffic⟩

theorem read_follows {n : Nat} (h : l.Follows t) (hn : 0 < n) :
    (∃ e l', l.read n = (.error e, l') ∧ e.isTransient = true ∧ l'.Follows t) ∨
    ∃ bytes back l', l.read n = (.ok bytes, l') ∧ t.incoming = bytes ++ back ∧
      bytes.length ≤ n ∧ (bytes = [] → t.incoming = []) ∧ l'.Follows (t.deliver bytes.length) := by
  rcases Taped.read_plays h.port hn with ⟨e, s, hr, again, plays⟩ | ⟨bytes, back, s, hr, cut, last, plays⟩
  · refine Or.inl ⟨e, { l with port := s }, ?_, again, ⟨plays, h.traffic⟩⟩
    rw [read, hr]
  · have asked := Port.read_length_le (congrArg Prod.fst hr)
    refine Or.inr ⟨bytes, back, { l with port := s, traffic := l.traffic.deliver bytes.length },
      ?_, cut, asked, last, ⟨?_, ?_⟩⟩
    · rw [read, hr]
    · simpa [Tape.deliver, cut] using plays
    · simp [Tape.deliver, h.traffic]

theorem write_follows {bytes : Bytes} (h : l.Follows t) (hb : bytes ≠ []) :
    (∃ e l', l.write bytes = (.error e, l') ∧ e.isTransient = true ∧ l'.Follows t) ∨
    (t.room = some 0 ∧ ∃ l', l.write bytes = (.error Queued.cablePulled, l') ∧ l'.Follows t) ∨
    ∃ k l', l.write bytes = (.ok (k + 1), l') ∧ k < bytes.length ∧ t.hasRoom (k + 1) = true ∧
      l'.Follows (t.take (bytes.take (k + 1))) := by
  rcases Taped.write_plays h.port hb with
    ⟨e, s, hw, again, plays⟩ | ⟨broken, s, hw, plays⟩ | ⟨k, s, hw, room, plays⟩
  · refine Or.inl ⟨e, { l with port := s }, ?_, again, ⟨plays, h.traffic⟩⟩
    rw [write, hw]
  · refine Or.inr (Or.inl ⟨broken, { l with port := s }, ?_, ⟨plays, h.traffic⟩⟩)
    rw [write, hw]
  · have offered : k + 1 ≤ bytes.length := Port.write_le_length (congrArg Prod.fst hw)
    refine Or.inr (Or.inr ⟨k, { l with port := s, traffic := l.traffic.take (bytes.take (k + 1)) },
      ?_, offered, room, ⟨?_, ?_⟩⟩)
    · rw [write, hw]
    · simpa [Tape.take, Nat.min_eq_left offered] using plays
    · simp [Tape.take, h.traffic]

theorem flush_follows (h : l.Follows t) : ∃ l', l.flush = (.ok (), l') ∧ l'.Follows t.flush := by
  obtain ⟨s, hf, plays⟩ := Taped.flush_plays h.port
  refine ⟨{ l with port := s, traffic := l.traffic.flush }, ?_, ⟨plays, ?_⟩⟩
  · rw [flush, hf]
  · simp [Tape.flush, h.traffic]

theorem send_follows (bytes : Bytes) (h : l.Follows t) :
    Agree Follows (l.send bytes) (t.send bytes) := by
  fun_induction send bytes l generalizing t with
  | case1 l =>
    obtain ⟨l', hf, follows⟩ := flush_follows h
    have room : t.hasRoom 0 = true := by cases hr : t.room <;> simp [Tape.hasRoom, hr]
    simpa [Tape.send, room, hf] using Agree.of follows
  | case2 l b rest l₁ hw =>
    rcases write_follows h (List.cons_ne_nil b rest) with
      ⟨e, m, hm, -⟩ | ⟨-, m, hm, -⟩ | ⟨k, m, hm, -⟩ <;> simp [hw] at hm
  | case3 l b rest k l₁ hw ih =>
    rcases write_follows h (List.cons_ne_nil b rest) with
      ⟨e, m, hm, -⟩ | ⟨-, m, hm, -⟩ | ⟨k', m, hm, offered, room, follows⟩
    · simp [hw] at hm
    · simp [hw] at hm
    · obtain ⟨rfl, rfl⟩ : k = k' ∧ l₁ = m := by simpa [hw] using hm
      have len : (b :: rest.take k).length = k + 1 := by
        rw [List.length_cons, List.length_take_of_le (Nat.le_of_lt_succ offered)]
      rw [show b :: rest = (b :: rest.take k) ++ rest.drop k by simp,
        Tape.send_append (by rwa [len])]
      exact ih (follows.note _)
  | case4 l b rest e l₁ hw again ih =>
    rcases write_follows h (List.cons_ne_nil b rest) with
      ⟨e', m, hm, -, follows⟩ | ⟨-, m, hm, -⟩ | ⟨k, m, hm, -⟩
    · obtain ⟨rfl, rfl⟩ : e = e' ∧ l₁ = m := by simpa [hw] using hm
      exact ih follows
    · obtain ⟨rfl, rfl⟩ : e = Queued.cablePulled ∧ l₁ = m := by simpa [hw] using hm
      exact absurd again (by decide)
    · simp [hw] at hm
  | case5 l b rest e l₁ hw final =>
    rcases write_follows h (List.cons_ne_nil b rest) with
      ⟨e', m, hm, again, -⟩ | ⟨broken, m, hm, follows⟩ | ⟨k, m, hm, -⟩
    · obtain ⟨rfl, rfl⟩ : e = e' ∧ l₁ = m := by simpa [hw] using hm
      exact absurd again final
    · obtain ⟨rfl, rfl⟩ : e = Queued.cablePulled ∧ l₁ = m := by simpa [hw] using hm
      simpa [Tape.send, Tape.hasRoom, broken] using Agree.of follows
    · simp [hw] at hm

theorem collect_follows (total need : Nat) (got : Bytes) (h : l.Follows t) :
    Agree Follows (collect total got need l)
      (if need ≤ t.incoming.length then (.ok (got.reverse ++ t.incoming.take need), t.deliver need)
      else (.error (.closedAfter (total - (need - t.incoming.length)) total),
        t.deliver t.incoming.length)) := by
  fun_induction collect total got need l generalizing t with
  | case1 got l => simpa using Agree.of h
  | case2 got need l hn l₁ hr =>
    rcases read_follows h (Nat.pos_of_ne_zero hn) with
      ⟨e, m, hm, -⟩ | ⟨bytes, back, m, hm, cut, -, last, follows⟩
    · simp [hr] at hm
    · obtain ⟨rfl, rfl⟩ : [] = bytes ∧ l₁ = m := by simpa [hr] using hm
      have closed : t.incoming.length = 0 := by rw [last rfl, List.length_nil]
      simpa [closed, hn] using Agree.of follows
  | case3 got need l hn b data l₁ hr ih =>
    rcases read_follows h (Nat.pos_of_ne_zero hn) with
      ⟨e, m, hm, -⟩ | ⟨bytes, back, m, hm, cut, asked, -, follows⟩
    · simp [hr] at hm
    · obtain ⟨rfl, rfl⟩ : b :: data = bytes ∧ l₁ = m := by simpa [hr] using hm
      have rest : (t.deliver (b :: data).length).incoming = back := by simp [Tape.deliver, cut]
      have whole : t.incoming.length = (b :: data).length + back.length := by
        rw [cut, List.length_append]
      have ih' := ih (follows.note _)
      simp only [rest, Tape.deliver_deliver, Nat.add_sub_cancel' asked] at ih'
      by_cases fits : need ≤ t.incoming.length
      · rw [if_pos (by omega)] at ih'
        rw [if_pos fits, cut, List.take_append, List.take_of_length_le asked, ← List.append_assoc]
        simpa [List.reverseAux_eq] using ih'
      · rw [if_neg (by omega), ← whole] at ih'
        rwa [if_neg fits, show need - t.incoming.length = need - (b :: data).length - back.length by omega]
  | case4 got need l hn e l₁ hr again ih =>
    rcases read_follows h (Nat.pos_of_ne_zero hn) with ⟨e', m, hm, -, follows⟩ | ⟨bytes, back, m, hm, -⟩
    · obtain ⟨rfl, rfl⟩ : e = e' ∧ l₁ = m := by simpa [hr] using hm
      exact ih follows
    · simp [hr] at hm
  | case5 got need l hn e l₁ hr final =>
    rcases read_follows h (Nat.pos_of_ne_zero hn) with ⟨e', m, hm, again, -⟩ | ⟨bytes, back, m, hm, -⟩
    · obtain ⟨rfl, rfl⟩ : e = e' ∧ l₁ = m := by simpa [hr] using hm
      exact absurd again final
    · simp [hr] at hm

theorem receive_follows (count : Nat) (h : l.Follows t) :
    Agree Follows (l.receive count) (t.receive count) := by
  have agree := collect_follows count count [] h
  unfold receive Tape.receive
  by_cases fits : count ≤ t.incoming.length
  · simpa [fits] using agree
  · have short : count - (count - t.incoming.length) = t.incoming.length := by omega
    simpa [fits, short] using agree

theorem receiveByte_follows (h : l.Follows t) :
    Agree Follows l.receiveByte t.receiveByte := by
  obtain ⟨r, l', t', hl, ht, follows⟩ := (receive_follows 1 h).cases
  unfold receiveByte Tape.receiveByte
  rw [hl]
  cases hi : t.incoming with
  | nil =>
    obtain ⟨rfl, rfl⟩ : .error (.closedAfter 0 1) = r ∧ t = t' := by simpa [Tape.receive, hi] using ht
    exact .of follows
  | cons b rest =>
    obtain ⟨rfl, rfl⟩ : .ok [b] = r ∧ t.deliver 1 = t' := by simpa [Tape.receive, hi] using ht
    exact .of follows

end Line

end BootHost
