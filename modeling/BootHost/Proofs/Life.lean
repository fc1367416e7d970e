import BootHost.Connection.Machine
import BootHost.Proofs.Conversation.Request
import BootHost.Proofs.Session.Cursor
import BootHost.Proofs.Tape.Grammar

/-!
# The life of a connection

A connection may be connected, opened for access and used in any order, and any of these may fail.
Whatever its holder does, its phase tells what has happened on the wire (`Story`): nothing at all while
it is idle, one greeting that came to nothing once it has failed, and one greeting that went through,
with the exchanges of commands behind it, once it is established. One act keeps the story going
(`story_of_act`), so any number of them do, and the phase is all that decides which acts are let
through (`Gated`).
-/

namespace BootHost

open Memory

variable {σ : Type} [Port σ]

/-- What has happened on the wire of a connection by the time it is in a phase. -/
inductive Story (fresh : Wire σ) : Phase → List Exchange → Wire σ → Prop where
  | idle : Story fresh .idle [] fresh
  | failed {start : Start} {e : Fault} {w : Wire σ} : fresh.Rebuffs start e w → Story fresh .failed [] w
  | established {start : Start} {said : List Exchange} {w w' : Wire σ} : fresh.Greets start w →
      Wire.Carries said w w' → Story fresh .established said w'

/-- Bytes that tell of a greeting and some exchanges: a front of the magic, and behind the whole of it
a front of each frame. -/
def Spoken (said : List Exchange) (bytes : Bytes) : Prop :=
  ∃ greeting cuts, bytes = greeting ++ cuts.flatten ∧ greeting <+: Protocol.magic ∧
    (said ≠ [] → greeting = Protocol.magic) ∧
    List.Forall₂ (fun x cut => cut <+: x.command.encode) said cuts

theorem Wire.Greets.taken {start : Start} {w w' : Wire σ} (h : w.Greets start w') :
    w'.traffic.taken = w.traffic.taken ++ Protocol.magic := by
  obtain ⟨m, n, traffic⟩ := h.traffic
  simp [traffic]

theorem Wire.Rebuffs.taken {start : Start} {e : Fault} {w w' : Wire σ} (h : w.Rebuffs start e w') :
    ∃ part, part <+: Protocol.magic ∧ w'.traffic.taken = w.traffic.taken ++ part := by
  obtain ⟨m, ⟨part, front, traffic⟩ | ⟨n, traffic⟩⟩ := h.traffic
  · exact ⟨part, front, by simp [traffic]⟩
  · exact ⟨Protocol.magic, List.prefix_rfl, by simp [traffic]⟩

/-- Each exchange sends a front of its frame. -/
theorem Wire.Carries.taken {said : List Exchange} {w w' : Wire σ} (h : Carries said w w') :
    ∃ cuts, List.Forall₂ (fun x cut => cut <+: x.command.encode) said cuts ∧
      w'.traffic.taken = w.traffic.taken ++ cuts.flatten := by
  induction h with
  | nil => exact ⟨[], .nil, (List.append_nil _).symm⟩
  | @answered isChunk c answer said w w' w'' answers _ ih =>
    obtain ⟨cuts, fronts, taken⟩ := ih
    refine ⟨c.encode :: cuts, .cons List.prefix_rfl fronts, ?_⟩
    rw [taken, answers.traffic, Traffic.taken_deliver, Traffic.taken_flush, Traffic.taken_take,
      List.flatten_cons, List.append_assoc]
  | @broken isChunk c said w w' w'' breaks _ ih =>
    obtain ⟨cuts, fronts, taken⟩ := ih
    rcases breaks.traffic with ⟨part, front, traffic⟩ | ⟨n, -, traffic⟩
    · refine ⟨part :: cuts, .cons front fronts, ?_⟩
      rw [taken, traffic, Traffic.taken_take, List.flatten_cons, List.append_assoc]
    · refine ⟨c.encode :: cuts, .cons List.prefix_rfl fronts, ?_⟩
      rw [taken, traffic, Traffic.taken_deliver, Traffic.taken_flush, Traffic.taken_take,
        List.flatten_cons, List.append_assoc]

namespace Story

variable {fresh w w' : Wire σ} {phase : Phase} {said said' : List Exchange}

theorem settled (h : Story fresh phase said w) : phase ≠ .awaitingBoard ∧ phase ≠ .nocking := by
  cases h <;> simp

theorem of_idle (h : Story fresh .idle said w) : said = [] ∧ w = fresh := by
  cases h
  exact ⟨rfl, rfl⟩

/-- More exchanges on an established connection. -/
theorem extend (h : Story fresh .established said w) (more : Wire.Carries said' w w') :
    Story fresh .established (said ++ said') w' := by
  cases h with
  | established greets carries => exact .established greets (carries.append more)

theorem spoken (h : Story fresh phase said w) (silent : fresh.traffic.taken = []) :
    Spoken said w.traffic.taken := by
  cases h with
  | idle => exact ⟨[], [], silent, List.nil_prefix, by simp, .nil⟩
  | failed rebuffs =>
    obtain ⟨part, front, taken⟩ := rebuffs.taken
    rw [silent, List.nil_append] at taken
    refine ⟨part, [], ?_, front, by simp, .nil⟩
    rw [taken, List.flatten_nil, List.append_nil]
  | established greets carries =>
    obtain ⟨cuts, fronts, taken⟩ := carries.taken
    rw [greets.taken, silent, List.nil_append] at taken
    exact ⟨Protocol.magic, cuts, taken, List.prefix_rfl, fun _ => rfl, fronts⟩

end Story

/-- Actions are performed by exchanges, and by nothing else on the wire. -/
theorem Memory.Access.performAll_carries (storage : Storage) (actions : List Action) (a : Access σ) :
    ∃ said, Wire.Carries said a.wire (a.performAll storage actions).2.wire := by
  induction actions generalizing a with
  | nil => exact ⟨[], .nil⟩
  | cons action rest ih =>
    rcases attempt : a.attempt storage action with ⟨entry, b⟩
    obtain ⟨r, a', performed, same, -⟩ := (attempted attempt).performed
    obtain ⟨said, course, -⟩ := call_course (.perform storage action) a
    have first : Wire.Carries said a.wire b.wire := by
      have carried := course.hands.carried
      rw [call, performed] at carried
      rwa [← same.wire]
    rw [performAll_cons rest attempt]
    split
    · obtain ⟨said', later⟩ := ih b
      exact ⟨said ++ said', first.append later⟩
    · exact ⟨said, first⟩

/-- One act of whoever holds a connection. -/
inductive Act where
  | connect (start : Start)
  /-- Opens an access, which takes the place of one that was opened before. -/
  | openAt (address : UInt64) (chunkSize : ChunkSize)
  /-- A call on the access. -/
  | call (c : Call)
  /-- A whole request on the access. -/
  | fulfil (storage : Storage) (request : Request)

/-- What an act brings that succeeds. -/
inductive Reply where
  | connected
  | opened
  | outcome (outcome : Outcome)
  | report (report : Report)
  /-- There was no access to call. -/
  | nothing

/-- A connection as it is held: by itself, or through the access that was opened on it. -/
inductive Held (σ : Type) where
  | free (conn : Connection σ)
  | through (a : Access σ)

namespace Held

/-- The connection that is held. -/
def conn : Held σ → Connection σ
  | free conn => conn
  | through a => a.conn

/-- One act, and how the connection is held behind it. -/
def act : Act → Held σ → Except Fault Reply × Held σ
  | .connect start, h =>
    match h.conn.connect start with
    | (r, conn) => (r.map fun _ => .connected, free conn)
  | .openAt address chunkSize, h =>
    match Access.start address h.conn with
    | .ok a => (.ok .opened, through { a with chunkSize := chunkSize })
    | .error e => (.error e, free h.conn)
  | .call c, through a =>
    match a.call c with
    | (r, a') => (r.map .outcome, through a')
  | .fulfil storage request, through a =>
    match a.fulfil storage request with
    | (report, a') => (.ok (.report report), through a')
  | .call _, free conn | .fulfil .., free conn => (.ok .nothing, free conn)

/-- How the connection is held behind some acts, whatever came of them. -/
def after : List Act → Held σ → Held σ
  | [], h => h
  | act :: rest, h => after rest (h.act act).2

variable {h : Held σ}

theorem act_connect_of_idle (idle : h.conn.phase = .idle) (start : Start) :
    h.act (.connect start) =
      ((h.conn.line.greet start).1.map fun _ => .connected,
        free ⟨(h.conn.line.greet start).2, .ofGreeting (h.conn.line.greet start).1⟩) := by
  unfold act
  dsimp only
  rw [Connection.connect_of_idle idle]
  generalize h.conn.line.greet start = x
  obtain ⟨e | _, line⟩ := x <;> rfl

theorem act_connect_of_not_idle (busy : h.conn.phase ≠ .idle) (start : Start) :
    h.act (.connect start) = (.error (.wrongPhase .idle h.conn.phase), free h.conn) := by
  unfold act Connection.connect
  dsimp only
  rw [if_neg busy]
  rfl

theorem act_openAt_of_established (established : h.conn.phase = .established) (address : UInt64)
    (chunkSize : ChunkSize) :
    ∃ a, h.act (.openAt address chunkSize) = (.ok .opened, through a) ∧ a.conn = h.conn := by
  unfold act Access.start
  dsimp only
  rw [dif_pos established]
  exact ⟨_, rfl, rfl⟩

theorem act_openAt_of_not_established (closed : h.conn.phase ≠ .established) (address : UInt64)
    (chunkSize : ChunkSize) :
    h.act (.openAt address chunkSize) = (.error (.wrongPhase .established h.conn.phase), free h.conn) := by
  unfold act Access.start
  dsimp only
  rw [dif_neg closed]

/-- Which acts the phase of a connection lets through. -/
structure Gated (h : Held σ) : Prop where
  /-- An idle connection is connected by a run of the machine, and is in the phase of its result. -/
  connects (start : Start) : h.conn.phase = .idle → ∃ r conn,
    (Greeting.State.ofStart start).drive h.conn.line = some (r, conn) ∧ conn.phase = .ofGreeting r ∧
      h.act (.connect start) = (r.map fun _ => .connected, free conn)
  /-- Any other is left as it is. -/
  connected (start : Start) : h.conn.phase ≠ .idle →
    h.act (.connect start) = (.error (.wrongPhase .idle h.conn.phase), free h.conn)
  /-- An established connection is opened, which touches nothing of it. -/
  opens (address : UInt64) (chunkSize : ChunkSize) : h.conn.phase = .established →
    ∃ a, h.act (.openAt address chunkSize) = (.ok .opened, through a) ∧ a.conn = h.conn
  /-- Any other is left as it is. -/
  closed (address : UInt64) (chunkSize : ChunkSize) : h.conn.phase ≠ .established →
    h.act (.openAt address chunkSize) = (.error (.wrongPhase .established h.conn.phase), free h.conn)

theorem gated (h : Held σ) : Gated h where
  connects start idle := by
    refine ⟨_, _, ?_, ?_, act_connect_of_idle idle start⟩
    · rw [Connection.drive_eq_connect idle, Connection.connect_of_idle idle]
      generalize h.conn.line.greet start = x
      obtain ⟨e | _, line⟩ := x <;> rfl
    · rfl
  connected start busy := act_connect_of_not_idle busy start
  opens address chunkSize established := act_openAt_of_established established address chunkSize
  closed address chunkSize closed := act_openAt_of_not_established closed address chunkSize

/-- One act keeps the story going. -/
theorem story_of_act {fresh : Wire σ} {said : List Exchange} (act : Act)
    (story : Story fresh h.conn.phase said h.conn.line.wire) :
    ∃ more, Story fresh (h.act act).2.conn.phase (said ++ more) (h.act act).2.conn.line.wire := by
  have still : ∃ more, Story fresh h.conn.phase (said ++ more) h.conn.line.wire := by
    refine ⟨[], ?_⟩
    rwa [List.append_nil]
  cases act with
  | connect start =>
    by_cases idle : h.conn.phase = .idle
    · rw [idle] at story
      obtain ⟨rfl, rfl⟩ := story.of_idle
      rw [act_connect_of_idle idle]
      refine ⟨[], ?_⟩
      rcases greeted : h.conn.line.greet start with ⟨e | _, line⟩
      · exact .failed (Line.rebuffs_of_greet_error greeted)
      · exact .established (Line.greets_of_greet_ok greeted) .nil
    · rw [act_connect_of_not_idle idle]
      exact still
  | openAt address chunkSize =>
    by_cases established : h.conn.phase = .established
    · obtain ⟨a, opened, same⟩ := act_openAt_of_established established address chunkSize
      rw [opened]
      dsimp only [conn]
      rw [same]
      exact still
    · rw [act_openAt_of_not_established established]
      exact still
  | call c =>
    cases h with
    | free conn => exact still
    | through a =>
      obtain ⟨said', course, -⟩ := Access.call_course c a
      have established : (a.call c).2.conn.phase = .established := (a.call c).2.established
      dsimp only [act, conn] at story ⊢
      rw [a.established] at story
      rw [established]
      exact ⟨said', story.extend course.hands.carried⟩
  | fulfil storage request =>
    cases h with
    | free conn => exact still
    | through a =>
      obtain ⟨said', carries⟩ := a.performAll_carries storage request.actions
      have established := (a.fulfil storage request).2.established
      dsimp only [act, conn] at story ⊢
      rw [a.established] at story
      rw [established]
      exact ⟨said', story.extend carries⟩

/-- The story goes on through any acts. -/
theorem story_of_after {fresh : Wire σ} {said : List Exchange} (acts : List Act)
    (story : Story fresh h.conn.phase said h.conn.line.wire) :
    ∃ more, Story fresh (h.after acts).conn.phase (said ++ more) (h.after acts).conn.line.wire := by
  induction acts generalizing h said with
  | nil =>
    refine ⟨[], ?_⟩
    rwa [List.append_nil]
  | cons act rest ih =>
    obtain ⟨more, next⟩ := story_of_act act story
    obtain ⟨more', later⟩ := ih next
    refine ⟨more ++ more', ?_⟩
    rwa [← List.append_assoc]

/-- A failed connection is out of reach. -/
theorem conn_of_act_of_failed (failed : h.conn.phase = .failed) (act : Act) :
    (h.act act).2.conn = h.conn := by
  have unusable (a : Access σ) : h ≠ through a := by
    rintro rfl
    have established : a.conn.phase = .established := a.established
    simp [conn, established] at failed
  cases act with
  | connect start =>
    have busy : h.conn.phase ≠ .idle := by simp [failed]
    rw [act_connect_of_not_idle busy]
    rfl
  | openAt address chunkSize =>
    have closed : h.conn.phase ≠ .established := by simp [failed]
    rw [act_openAt_of_not_established closed]
    rfl
  | call _ | fulfil _ _ =>
    cases h with
    | free conn => rfl
    | through a => exact absurd rfl (unusable a)

theorem conn_of_after_of_failed (failed : h.conn.phase = .failed) (acts : List Act) :
    (h.after acts).conn = h.conn := by
  induction acts generalizing h with
  | nil => rfl
  | cons act rest ih =>
    have same := conn_of_act_of_failed failed act
    have later := ih (same ▸ failed)
    exact later.trans same

theorem phase_of_act_of_established (established : h.conn.phase = .established) (act : Act) :
    (h.act act).2.conn.phase = .established := by
  cases act with
  | connect start =>
    have busy : h.conn.phase ≠ .idle := by simp [established]
    rw [act_connect_of_not_idle busy]
    exact established
  | openAt address chunkSize =>
    obtain ⟨a, opened, -⟩ := act_openAt_of_established established address chunkSize
    rw [opened]
    exact a.established
  | call c =>
    cases h with
    | free conn => exact established
    | through a => exact (a.call c).2.established
  | fulfil storage request =>
    cases h with
    | free conn => exact established
    | through a => exact (a.fulfil storage request).2.established

theorem phase_of_after_of_established (established : h.conn.phase = .established) (acts : List Act) :
    (h.after acts).conn.phase = .established := by
  induction acts generalizing h with
  | nil => exact established
  | cons act rest ih => exact ih (phase_of_act_of_established established act)

/-- What is known at any time of a connection whose line was fresh at first. -/
structure LifeCycle (fresh : Wire σ) (h : Held σ) : Prop where
  gated : Gated h
  /-- No act leaves a greeting half-way. -/
  settled : h.conn.phase ≠ .awaitingBoard ∧ h.conn.phase ≠ .nocking
  /-- There was one greeting at most, no command went out ahead of its acknowledgment, and the bytes
  that went out are those of the greeting and of the commands. -/
  story : ∃ said, Story fresh h.conn.phase said h.conn.line.wire ∧ Spoken said h.conn.line.traffic.taken
  failed : h.conn.phase = .failed → ∀ later, (h.after later).conn = h.conn
  established : h.conn.phase = .established → ∀ later, (h.after later).conn.phase = .established

/-- Through any acts on a connection over any port, of which each may succeed or fail in any way, the
connection keeps to its life cycle. -/
theorem keeps_life_cycle (port : σ) (acts : List Act) :
    LifeCycle ⟨port, {}⟩ ((free (.ofPort port)).after acts) := by
  obtain ⟨said, story⟩ := story_of_after acts (h := free (.ofPort port)) Story.idle
  constructor
  case gated => exact Held.gated _
  case settled => exact story.settled
  case story => exact ⟨_, story, story.spoken rfl⟩
  case failed => exact conn_of_after_of_failed
  case established => exact phase_of_after_of_established

end Held

end BootHost
