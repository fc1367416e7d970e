import BootHost.Connection.Greeting
import BootHost.Proofs.Transfer.Calls
import BootHost.Run

/-!
# Relations between lines

Two lines that belong together, be it over ports of two kinds, and that stay together whatever the host does
on both. The argument is made once, for any relation. When the notes and the three calls on the port keep it
and bring the same on both lines (`Line.Mirror`), so does everything up to a whole run (`Line.Mirror.run`).
Where only notes and exchanges are known to keep it (`Line.Likeness`), all that is made of exchanges does, and
a run does behind greetings that agree (`Line.Likeness.run`).
-/

namespace BootHost

open Memory

variable {σ τ : Type} {R : Line σ → Line τ → Prop} {l : Line σ} {m : Line τ}

namespace Memory.Access

/-- Two accesses over lines that belong together, with the same cursor and the same chunk size. -/
structure Paired (R : Line σ → Line τ → Prop) (a : Access σ) (b : Access τ) : Prop where
  line : R a.conn.line b.conn.line
  cursor : a.cursor = b.cursor
  chunkSize : a.chunkSize = b.chunkSize

/-- The same is left of the source, and the accesses belong together. -/
def PairedAt (R : Line σ → Line τ → Prop) (x : Source × Access σ) (y : Source × Access τ) : Prop :=
  x.1 = y.1 ∧ Paired R x.2 y.2

variable {a : Access σ} {b : Access τ}

theorem Paired.withLine (h : Paired R a b) (hl : R l m) : Paired R (a.withLine l) (b.withLine m) :=
  ⟨hl, h.cursor, h.chunkSize⟩

theorem Paired.here (h : Paired R a b) : a.here = b.here := by
  simp only [Access.here, h.cursor]

theorem Paired.place (length : Nat) (h : Paired R a b) : a.place length = b.place length := by
  simp only [Access.place, h.here]

theorem Paired.checkSize (size : Option Nat) (h : Paired R a b) : a.checkSize size = b.checkSize size := by
  simp only [Access.checkSize, h.place]

theorem Paired.passed (next : Option UInt64) (length : Nat) (h : Paired R a b) :
    Paired R (a.passed next length) (b.passed next length) := ⟨h.line, rfl, h.chunkSize⟩

end Memory.Access

namespace Connection

/-- Two connections in the same phase over lines that belong together. -/
structure Paired (R : Line σ → Line τ → Prop) (conn : Connection σ) (conn' : Connection τ) : Prop where
  line : R conn.line conn'.line
  phase : conn.phase = conn'.phase

end Connection

variable [Port σ] [Port τ]

namespace Line

/-- A relation that notes and calls on the port keep. -/
structure Mirror (R : Line σ → Line τ → Prop) : Prop where
  note {l : Line σ} {m : Line τ} (n : Note) : R l m → R (l.note n) (m.note n)
  read {l : Line σ} {m : Line τ} (n : Nat) : R l m → Agree R (l.read n) (m.read n)
  write {l : Line σ} {m : Line τ} (bytes : Bytes) : R l m → Agree R (l.write bytes) (m.write bytes)
  flush {l : Line σ} {m : Line τ} : R l m → Agree R l.flush m.flush

/-- A relation that notes and exchanges keep. -/
structure Likeness (R : Line σ → Line τ → Prop) : Prop where
  note {l : Line σ} {m : Line τ} (n : Note) : R l m → R (l.note n) (m.note n)
  command {l : Line σ} {m : Line τ} (c : Command) (stage : Stage) : R l m →
    Agree R (l.command c stage) (m.command c stage)
  fetch {l : Line σ} {m : Line τ} (length : UInt32) (address : UInt64) : R l m →
    Agree R (l.fetch length address) (m.fetch length address)

variable {l' : Line σ}

/-- One byte that is heard while the host waits for the board, and what follows. -/
theorem awaitReady_of_receiveByte {dropped : Nat} {r : Except DeviceFault UInt8} : l.receiveByte = (r, l') →
    l.awaitReady dropped =
      match r with
      | .ok b =>
        if b = Protocol.ready then (.ok dropped, l'.note .found)
        else awaitReady (dropped + 1) (l'.note (.ignored b))
      | .error e => (.error e, l') := by
  intro h
  rw [awaitReady]
  split <;> rename_i heard <;> obtain ⟨rfl, rfl⟩ := Prod.mk.inj (h.symm.trans heard) <;> rfl

/-- One byte that is heard while the host waits for an answer, and what follows. -/
theorem awaitAnswer_of_receiveByte {skipped : Nat} {r : Except DeviceFault UInt8} : l.receiveByte = (r, l') →
    l.awaitAnswer skipped =
      match r with
      | .ok b => if b = Protocol.ready then awaitAnswer (skipped + 1) l' else (.ok (b, skipped), l')
      | .error e => (.error e, l') := by
  intro h
  rw [awaitAnswer]
  split <;> rename_i heard <;> obtain ⟨rfl, rfl⟩ := Prod.mk.inj (h.symm.trans heard) <;> rfl

namespace Mirror

theorem send (mirror : Mirror R) (bytes : Bytes) (h : R l m) : Agree R (l.send bytes) (m.send bytes) := by
  -- The induction follows the calls on the one line; the other one is called alike, since both brought the same
  -- so far.
  fun_induction Line.send bytes l generalizing m with
  | case1 l =>
    rw [Line.send]
    exact mirror.flush h
  | case2 l b rest l' hw =>
    obtain ⟨m', hm, same⟩ := (hw ▸ mirror.write (b :: rest) h).right
    rw [send_of_write (List.cons_ne_nil b rest) hm]
    exact .of same
  | case3 l b rest k l' hw ih =>
    obtain ⟨m', hm, same⟩ := (hw ▸ mirror.write (b :: rest) h).right
    rw [send_of_write (List.cons_ne_nil b rest) hm]
    exact ih (mirror.note _ same)
  | case4 l b rest e l' hw transient ih =>
    obtain ⟨m', hm, same⟩ := (hw ▸ mirror.write (b :: rest) h).right
    rw [send_of_write (List.cons_ne_nil b rest) hm]
    dsimp only
    rw [if_pos transient]
    exact ih same
  | case5 l b rest e l' hw final =>
    obtain ⟨m', hm, same⟩ := (hw ▸ mirror.write (b :: rest) h).right
    rw [send_of_write (List.cons_ne_nil b rest) hm]
    dsimp only
    rw [if_neg final]
    exact .of same

theorem collect (mirror : Mirror R) (total need : Nat) (got : Bytes) (h : R l m) :
    Agree R (Line.collect total got need l) (Line.collect total got need m) := by
  fun_induction Line.collect total got need l generalizing m with
  | case1 got l =>
    rw [Line.collect, if_pos rfl]
    exact .of h
  | case2 got need l some l' hr =>
    obtain ⟨m', hm, same⟩ := (hr ▸ mirror.read need h).right
    rw [collect_of_read some hm]
    exact .of same
  | case3 got need l some b bytes l' hr ih =>
    obtain ⟨m', hm, same⟩ := (hr ▸ mirror.read need h).right
    rw [collect_of_read some hm]
    exact ih (mirror.note _ same)
  | case4 got need l some e l' hr transient ih =>
    obtain ⟨m', hm, same⟩ := (hr ▸ mirror.read need h).right
    rw [collect_of_read some hm]
    dsimp only
    rw [if_pos transient]
    exact ih same
  | case5 got need l some e l' hr final =>
    obtain ⟨m', hm, same⟩ := (hr ▸ mirror.read need h).right
    rw [collect_of_read some hm]
    dsimp only
    rw [if_neg final]
    exact .of same

theorem receiveByte (mirror : Mirror R) (h : R l m) : Agree R l.receiveByte m.receiveByte := by
  obtain ⟨r, l', m', hl, hm, same⟩ := (mirror.collect 1 1 [] h).cases
  unfold Line.receiveByte receive
  rw [hl, hm]
  rcases r with e | _ | ⟨b, bytes⟩ <;> exact .of same

theorem issue (mirror : Mirror R) (c : Command) (h : R l m) : Agree R (l.issue c) (m.issue c) := by
  obtain ⟨r, l', m', hl, hm, same⟩ :=
    (mirror.send c.encode (mirror.note (.frame c.encode) (mirror.note (.sending c.tag c.payload.length) h))).cases
  unfold Line.issue
  rw [hl, hm]
  cases r <;> exact .of same

theorem awaitAck (mirror : Mirror R) (stage : Stage) (h : R l m) :
    Agree R (l.awaitAck stage) (m.awaitAck stage) := by
  obtain ⟨r, l', m', hl, hm, same⟩ := (mirror.receiveByte h).cases
  unfold Line.awaitAck
  rw [hl, hm]
  cases r with
  | error e => exact .of same
  | ok b =>
    dsimp only
    split <;> exact .of same

theorem command (mirror : Mirror R) (c : Command) (stage : Stage) (h : R l m) :
    Agree R (l.command c stage) (m.command c stage) := by
  obtain ⟨r, l', m', hl, hm, same⟩ := (mirror.issue c h).cases
  unfold Line.command
  rw [hl, hm]
  cases r with
  | error e => exact .of same
  | ok _ => exact mirror.awaitAck stage same

theorem fetch (mirror : Mirror R) (length : UInt32) (address : UInt64) (h : R l m) :
    Agree R (l.fetch length address) (m.fetch length address) := by
  obtain ⟨r, l', m', hl, hm, same⟩ := (mirror.issue (.readBlock length address) h).cases
  unfold Line.fetch receive
  rw [hl, hm]
  cases r with
  | error e => exact .of same
  | ok _ =>
    obtain ⟨r, l'', m'', hl', hm', same'⟩ := (mirror.collect length.toNat length.toNat [] same).cases
    dsimp only
    rw [hl', hm']
    cases r with
    | error e => exact .of same'
    | ok bytes => exact .of (mirror.note _ same')

theorem likeness (mirror : Mirror R) : Likeness R := ⟨mirror.note, mirror.command, mirror.fetch⟩

theorem awaitReady (mirror : Mirror R) (dropped : Nat) (h : R l m) :
    Agree R (l.awaitReady dropped) (m.awaitReady dropped) := by
  fun_induction Line.awaitReady dropped l generalizing m with
  | case1 dropped l l' heard =>
    obtain ⟨m', heard', same⟩ := (heard ▸ mirror.receiveByte h).right
    rw [awaitReady_of_receiveByte heard']
    dsimp only
    rw [if_pos rfl]
    exact .of (mirror.note _ same)
  | case2 dropped l b l' heard other ih =>
    obtain ⟨m', heard', same⟩ := (heard ▸ mirror.receiveByte h).right
    rw [awaitReady_of_receiveByte heard']
    dsimp only
    rw [if_neg other]
    exact ih (mirror.note _ same)
  | case3 dropped l e l' heard =>
    obtain ⟨m', heard', same⟩ := (heard ▸ mirror.receiveByte h).right
    rw [awaitReady_of_receiveByte heard']
    exact .of same

theorem awaitAnswer (mirror : Mirror R) (skipped : Nat) (h : R l m) :
    Agree R (l.awaitAnswer skipped) (m.awaitAnswer skipped) := by
  fun_induction Line.awaitAnswer skipped l generalizing m with
  | case1 skipped l l' heard ih =>
    obtain ⟨m', heard', same⟩ := (heard ▸ mirror.receiveByte h).right
    rw [awaitAnswer_of_receiveByte heard']
    dsimp only
    rw [if_pos rfl]
    exact ih same
  | case2 skipped l b l' heard other =>
    obtain ⟨m', heard', same⟩ := (heard ▸ mirror.receiveByte h).right
    rw [awaitAnswer_of_receiveByte heard']
    dsimp only
    rw [if_neg other]
    exact .of same
  | case3 skipped l e l' heard =>
    obtain ⟨m', heard', same⟩ := (heard ▸ mirror.receiveByte h).right
    rw [awaitAnswer_of_receiveByte heard']
    exact .of same

theorem noteStray (mirror : Mirror R) (dropped : Nat) (h : R l m) :
    R (l.noteStray dropped) (m.noteStray dropped) := by
  unfold Line.noteStray
  split
  · exact mirror.note _ h
  · exact h

theorem nock (mirror : Mirror R) (dropped : Nat) (h : R l m) : Agree R (l.nock dropped) (m.nock dropped) := by
  have noted := mirror.note .greeting (mirror.noteStray dropped (mirror.note .nocking h))
  obtain ⟨r, l', m', hl, hm, same⟩ := (mirror.send Protocol.magic noted).cases
  unfold Line.nock
  rw [hl, hm]
  cases r with
  | error e => exact .of same
  | ok _ =>
    obtain ⟨r, l'', m'', hl', hm', same'⟩ := (mirror.awaitAnswer 0 same).cases
    dsimp only
    rw [hl', hm']
    cases r with
    | error e => exact .of same'
    | ok answer =>
      dsimp only
      split
      · exact .of (mirror.note _ same')
      · exact .of same'

theorem greet (mirror : Mirror R) (start : Start) (h : R l m) : Agree R (l.greet start) (m.greet start) := by
  cases start with
  | nock => exact mirror.nock 0 h
  | awaitBoard =>
    have listening := mirror.note .listening (mirror.note .awaiting h)
    obtain ⟨r, l', m', hl, hm, same⟩ := (mirror.awaitReady 0 listening).cases
    unfold Line.greet
    dsimp only
    rw [hl, hm]
    cases r with
    | error e => exact .of same
    | ok dropped => exact mirror.nock dropped same

end Mirror

end Line

namespace Line.Likeness

open Access

variable {a : Access σ} {b : Access τ}

theorem access_note (likeness : Likeness R) (n : Note) (h : Paired R a b) : Paired R (a.note n) (b.note n) :=
  h.withLine (likeness.note n h.line)

theorem access_command (likeness : Likeness R) (c : Command) (stage : Stage) (h : Paired R a b) :
    Agree (Paired R) (a.command c stage) (b.command c stage) := by
  obtain ⟨r, l, m, hl, hm, same⟩ := (likeness.command c stage h.line).cases
  unfold Access.command
  rw [hl, hm]
  exact .of (h.withLine same)

theorem writeBlock (likeness : Likeness R) (address : UInt64) (bytes : Bytes) (h : Paired R a b) :
    Agree (Paired R) (a.writeBlock address bytes) (b.writeBlock address bytes) := by
  unfold Access.writeBlock
  cases Command.writeBlock address bytes with
  | error e => exact .of h
  | ok c => exact likeness.access_command c .write h

theorem writeChunks (likeness : Likeness R) (w : Written) (source : Source) (h : Paired R a b) :
    Agree (PairedAt R) (a.writeChunks w source) (b.writeChunks w source) := by
  fun_induction Access.writeChunks w source a generalizing b with
  | case1 w source a e rest hf =>
    rw [writeChunks_of_error (h.chunkSize ▸ hf)]
    exact .of ⟨rfl, h⟩
  | case2 w source a rest hf =>
    rw [writeChunks_of_nil (h.chunkSize ▸ hf)]
    exact .of ⟨rfl, likeness.access_note _ h⟩
  | case3 w source a c bytes rest hf e hp =>
    rw [writeChunks_of_cons (a := b) (w := w) (h.chunkSize ▸ hf), ← h.place, hp]
    exact .of ⟨rfl, h⟩
  | case4 w source a c bytes rest hf address next hp e a' hw =>
    rw [writeChunks_of_cons (a := b) (w := w) (h.chunkSize ▸ hf), ← h.place, hp]
    obtain ⟨b', hb, same⟩ := (hw ▸ likeness.writeBlock address (c :: bytes) (likeness.access_note _ h)).right
    dsimp only
    rw [hb]
    exact .of ⟨rfl, same⟩
  | case5 w source a c bytes rest hf address next hp a' hw ih =>
    rw [writeChunks_of_cons (a := b) (w := w) (h.chunkSize ▸ hf), ← h.place, hp]
    obtain ⟨b', hb, same⟩ := (hw ▸ likeness.writeBlock address (c :: bytes) (likeness.access_note _ h)).right
    dsimp only
    rw [hb]
    exact ih (same.passed next (c :: bytes).length)

theorem writeAll (likeness : Likeness R) (source : Source) (h : Paired R a b) :
    Agree (PairedAt R) (a.writeAll source) (b.writeAll source) := by
  unfold Access.writeAll
  rw [← h.here]
  cases a.here with
  | error e => exact .of ⟨rfl, h⟩
  | ok address => exact likeness.writeChunks _ source h

theorem writeFile (likeness : Likeness R) (storage : Storage) (path : String) (h : Paired R a b) :
    Agree (Paired R) (a.writeFile storage path) (b.writeFile storage path) := by
  cases opens : storage path with
  | error e =>
    rw [Access.writeFile_of_unopened opens, Access.writeFile_of_unopened opens]
    exact .of h
  | ok file =>
    cases accepted : a.checkSize file.size with
    | error e =>
      have refused : b.checkSize file.size = .error e := (h.checkSize file.size).symm.trans accepted
      rw [Access.writeFile_of_refused opens accepted, Access.writeFile_of_refused opens refused]
      exact .of h
    | ok _ =>
      have accepted' : b.checkSize file.size = .ok () := (h.checkSize file.size).symm.trans accepted
      have started : Paired R (a.counting file.size) (b.counting file.size) := ⟨h.line, h.cursor, h.chunkSize⟩
      obtain ⟨r, ⟨_, a'⟩, ⟨_, b'⟩, ha, hb, rfl, same⟩ := (likeness.writeAll file.content started).cases
      rw [Access.writeFile_of_accepted opens accepted ha, Access.writeFile_of_accepted opens accepted' hb]
      exact .of ⟨same.line, same.cursor, same.chunkSize⟩

theorem writeValue (likeness : Likeness R) (value : UInt64) (length : Nat) (h : Paired R a b) :
    Agree (Paired R) (a.writeValue value length) (b.writeValue value length) := by
  unfold Access.writeValue
  cases Command.valueBytes value length with
  | error e => exact .of h
  | ok bytes =>
    dsimp only
    rw [← h.place]
    cases a.place length with
    | error e => exact .of h
    | ok placed =>
      obtain ⟨r, a', b', ha, hb, same⟩ := (likeness.writeBlock placed.1 bytes
        (likeness.access_note (.writingValue placed.1 value length) h)).cases
      dsimp only
      rw [ha, hb]
      cases r with
      | error e => exact .of same
      | ok _ => exact .of (likeness.access_note _ same)

theorem read (likeness : Likeness R) (length : UInt32) (h : Paired R a b) :
    Agree (Paired R) (a.read length) (b.read length) := by
  unfold Access.read
  rw [← h.here]
  cases a.here with
  | error e => exact .of h
  | ok address =>
    obtain ⟨r, l, m, hl, hm, same⟩ :=
      (likeness.fetch length address (likeness.note (.reading address length) h.line)).cases
    dsimp only
    rw [hl, hm]
    cases r <;> exact .of (h.withLine same)

theorem jump (likeness : Likeness R) (h : Paired R a b) : Agree (Paired R) a.jump b.jump := by
  unfold Access.jump
  rw [← h.here]
  cases a.here with
  | error e => exact .of h
  | ok address =>
    obtain ⟨r, a', b', ha, hb, same⟩ :=
      (likeness.access_command (.jumpTo address) .jump (likeness.access_note (.jumping address) h)).cases
    dsimp only
    rw [ha, hb]
    cases r with
    | error e => exact .of same
    | ok _ => exact .of (likeness.access_note _ same)

theorem perform (likeness : Likeness R) (storage : Storage) (action : Action) (h : Paired R a b) :
    Agree (Paired R) (a.perform storage action) (b.perform storage action) := by
  cases action with
  | writeFile path =>
    obtain ⟨r, a', b', ha, hb, same⟩ := (likeness.writeFile storage path h).cases
    simp only [Access.perform, ha, hb]
    cases r <;> exact .of same
  | writeValue i =>
    obtain ⟨r, a', b', ha, hb, same⟩ := (likeness.writeValue i.value i.length h).cases
    simp only [Access.perform, ha, hb]
    cases r <;> exact .of same
  | read length =>
    obtain ⟨r, a', b', ha, hb, same⟩ := (likeness.read length h).cases
    simp only [Access.perform, ha, hb]
    cases r <;> exact .of same
  | jump =>
    obtain ⟨r, a', b', ha, hb, same⟩ := (likeness.jump h).cases
    simp only [Access.perform, ha, hb]
    cases r <;> exact .of same

theorem performAll (likeness : Likeness R) (storage : Storage) (actions : List Action) (h : Paired R a b) :
    Agree (Paired R) (a.performAll storage actions) (b.performAll storage actions) := by
  induction actions generalizing a b with
  | nil => exact .of h
  | cons action rest ih =>
    obtain ⟨r, a', b', ha, hb, same⟩ := (likeness.perform storage action h).cases
    simp only [Access.performAll, ha, hb]
    cases r with
    | ok outcome =>
      obtain ⟨entries, a'', b'', ha', hb', same'⟩ := (ih same).cases
      simp only [ha', hb']
      exact .of same'
    | error e =>
      dsimp only
      split
      · have noted := likeness.access_note (.skipped action.operation e) same
        obtain ⟨entries, a'', b'', ha', hb', same'⟩ := (ih noted).cases
        simp only [ha', hb']
        exact .of same'
      · exact .of (likeness.access_note _ same)

/-- A whole request gives the same report. -/
theorem fulfil (likeness : Likeness R) (storage : Storage) (request : Request) (h : Paired R a b) :
    Agree (Paired R) (a.fulfil storage request) (b.fulfil storage request) := by
  obtain ⟨entries, a', b', ha, hb, same⟩ := (likeness.performAll storage request.actions h).cases
  simp only [Access.fulfil, ha, hb]
  exact .of same

end Line.Likeness

/-- Runs that are greeted alike, and ask for the same at the same address, bring the same. -/
theorem Line.Likeness.run (likeness : Likeness R) {conn : Connection σ} {conn' : Connection τ}
    {setup setup' : Setup} (storage : Storage) (address : setup.address = setup'.address)
    (request : setup.request = setup'.request)
    (h : Agree (Connection.Paired R) (conn.connect (.ofSkipWait setup.skipWait))
      (conn'.connect (.ofSkipWait setup'.skipWait))) :
    Agree (Connection.Paired R) (conn.run storage setup) (conn'.run storage setup') := by
  obtain ⟨r, c, c', hc, hc', connected⟩ := h.cases
  cases r with
  | error e =>
    rw [Connection.run_of_connect_error hc, Connection.run_of_connect_error hc']
    exact .of connected
  | ok _ =>
    obtain ⟨a, la, ca, sa, ra⟩ := Connection.run_of_connect_ok storage hc
    obtain ⟨b, lb, cb, sb, rb⟩ := Connection.run_of_connect_ok storage hc'
    have begun : Access.Paired R a b := by
      refine ⟨?_, ?_, sa.trans sb.symm⟩
      · rw [la, lb]
        exact likeness.note _ connected.line
      · rw [ca, cb, address]
    obtain ⟨report, a', b', ha, hb, ended⟩ := (likeness.fulfil storage setup.request begun).cases
    have noted := likeness.access_note (.cursorEnded a'.cursor) ended
    rw [ra, ha, rb, ← request, hb]
    dsimp only
    rw [← ended.cursor]
    exact .of ⟨noted.line, a'.established.trans b'.established.symm⟩

theorem Line.Mirror.connect (mirror : Mirror R) {conn : Connection σ} {conn' : Connection τ} (start : Start)
    (h : Connection.Paired R conn conn') :
    Agree (Connection.Paired R) (conn.connect start) (conn'.connect start) := by
  obtain ⟨r, l, m, hl, hm, same⟩ := (mirror.greet start h.line).cases
  unfold Connection.connect
  rw [← h.phase, hl, hm]
  split
  · cases r <;> exact .of ⟨same, rfl⟩
  · exact .of h

/-- A run over two lines that belong together brings the same, and leaves them together. -/
theorem Line.Mirror.run (mirror : Mirror R) {conn : Connection σ} {conn' : Connection τ} (storage : Storage)
    (setup : Setup) (h : Connection.Paired R conn conn') :
    Agree (Connection.Paired R) (conn.run storage setup) (conn'.run storage setup) :=
  mirror.likeness.run storage rfl rfl (mirror.connect (.ofSkipWait setup.skipWait) h)

namespace Line

/-- Two lines that differ in nothing but their notes. -/
def Same {σ : Type} (l m : Line σ) : Prop := l.wire = m.wire

/-- What the host does does not depend on the notes. -/
theorem mirror_same : Mirror (Same : Line σ → Line σ → Prop) where
  note _ h := h
  read {l m} n h := by
    obtain ⟨port, traffic⟩ := Wire.mk.inj h
    unfold Line.read
    rw [← port, ← traffic]
    split <;> exact .of rfl
  write {l m} bytes h := by
    obtain ⟨port, traffic⟩ := Wire.mk.inj h
    unfold Line.write
    rw [← port, ← traffic]
    split <;> exact .of rfl
  flush {l m} h := by
    obtain ⟨port, traffic⟩ := Wire.mk.inj h
    unfold Line.flush
    rw [← port, ← traffic]
    split <;> exact .of rfl

end Line

end BootHost
