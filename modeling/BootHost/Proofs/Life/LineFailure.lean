import BootHost.Port.Scripted
import BootHost.Proofs.Framing
import BootHost.Proofs.Life
import BootHost.Proofs.Session.Lifting

/-!
# Line failures

What a failure of the line does to a connection. Only a call that ends with a transport fault cuts a
frame short, and it ends right there (`Wire.Sends`); so up to the first line failure there are whole
frames on the line, and at most one behind them that is not whole. A greeting does not outlive a line
failure. A session does: the connection stays established, an access can be opened on it again, and the
next frame goes out behind the one that was cut short.
-/

namespace BootHost

open Memory

/-- The result of a call tells of a line failure. -/
def failsLine {α : Type} : Except Fault α → Bool
  | .ok _ => false
  | .error e => e.isLineFailure

theorem failsLine_eq {α : Type} (r : Except Fault α) : failsLine r = (fault? r).any Fault.isLineFailure := by
  cases r <;> rfl

/-- A front of a stream of frames, and the whole stream unless it was cut. -/
def Frames (cut : Bool) (bytes : Bytes) : Prop :=
  ∃ said : List Command, bytes <+: said.flatMap Command.encode ∧
    (cut = false → bytes = said.flatMap Command.encode)

namespace Frames

variable {cut : Bool} {bytes bytes' : Bytes} {c : Command}

theorem nil (cut : Bool) : Frames cut [] := ⟨[], List.prefix_rfl, fun _ => rfl⟩

theorem whole (cut : Bool) (c : Command) : Frames cut c.encode := by
  refine ⟨[c], ?_, ?_⟩
  · simp
  · simp

theorem front (h : bytes <+: c.encode) : Frames true bytes := by
  refine ⟨[c], ?_, by simp⟩
  rwa [List.flatMap_singleton]

theorem append (h : Frames false bytes) (h' : Frames cut bytes') : Frames cut (bytes ++ bytes') := by
  obtain ⟨said, -, all⟩ := h
  obtain ⟨said', front, all'⟩ := h'
  obtain rfl := all rfl
  refine ⟨said ++ said', ?_, ?_⟩
  · rwa [List.flatMap_append, List.prefix_append_right_inj]
  · intro uncut
    rw [List.flatMap_append, ← all' uncut]

end Frames

variable {σ : Type}

/-- All that is sent over a wire are frames. -/
def Wire.Sends (cut : Bool) (w w' : Wire σ) : Prop :=
  ∃ bytes, w'.traffic.taken = w.traffic.taken ++ bytes ∧ Frames cut bytes

namespace Wire.Sends

variable {cut : Bool} {w w' w'' : Wire σ}

theorem nothing (cut : Bool) (w : Wire σ) : Sends cut w w := ⟨[], (List.append_nil _).symm, .nil cut⟩

theorem append (h : Sends false w w') (h' : Sends cut w' w'') : Sends cut w w'' := by
  obtain ⟨bytes, taken, frames⟩ := h
  obtain ⟨bytes', taken', frames'⟩ := h'
  refine ⟨bytes ++ bytes', ?_, frames.append frames'⟩
  rw [taken', taken, List.append_assoc]

end Wire.Sends

/-- What was sent by the time a connection is in a phase, when nothing was cut. -/
inductive Whole : Phase → Bytes → Prop where
  | idle : Whole .idle []
  | failed : Whole .failed Protocol.magic
  | established (said : List Command) : Whole .established (Protocol.magic ++ said.flatMap Command.encode)

/-- A front of the magic and a stream of frames, so all but the last frame are whole. -/
def IsFront (bytes : Bytes) : Prop :=
  ∃ said : List Command, bytes <+: Protocol.magic ++ said.flatMap Command.encode

namespace Whole

theorem isFront {phase : Phase} {bytes : Bytes} (h : Whole phase bytes) : IsFront bytes := by
  cases h with
  | idle => exact ⟨[], List.nil_prefix⟩
  | failed => exact ⟨[], List.prefix_append ..⟩
  | established said => exact ⟨said, List.prefix_rfl⟩

theorem of_idle {bytes : Bytes} (h : Whole .idle bytes) : bytes = [] := by
  cases h
  rfl

/-- What is sent in a session goes behind what was sent before. -/
theorem sends {cut : Bool} {w w' : Wire σ} (whole : Whole .established w.traffic.taken)
    (sends : w.Sends cut w') :
    IsFront w'.traffic.taken ∧ (cut = false → Whole .established w'.traffic.taken) := by
  obtain ⟨bytes, taken, more, front, all⟩ := sends
  generalize w.traffic.taken = before at whole taken
  cases whole with
  | established said =>
    rw [taken, List.append_assoc]
    constructor
    · refine ⟨said ++ more, ?_⟩
      rwa [List.flatMap_append, List.prefix_append_right_inj, List.prefix_append_right_inj]
    · intro uncut
      rw [all uncut, ← List.flatMap_append]
      exact .established (said ++ more)

end Whole

variable [Port σ]

namespace Line

variable {l l' m : Line σ} {c : Command}

theorem sends_of_issue_error {e : Fault} (h : l.issue c = (.error e, l')) :
    Wire.Sends e.isLineFailure l.wire l'.wire := by
  obtain ⟨k, cause, same, sent, rfl⟩ := send_of_issue_error h
  obtain ⟨part, front, traffic⟩ := traffic_of_send_error sent
  rw [← same]
  refine ⟨part, ?_, .front front⟩
  rw [wire_traffic, traffic, Traffic.taken_take, wire_traffic]

/-- A command that went out is a whole frame, whatever is heard behind it. -/
theorem sends_of_issue_ok {n : Nat} (cut : Bool) (h : l.issue c = (.ok (), m))
    (heard : l'.traffic = m.traffic.deliver n) : Wire.Sends cut l.wire l'.wire := by
  obtain ⟨k, same, sent⟩ := send_of_issue_ok h
  rw [← same]
  refine ⟨c.encode, ?_, .whole cut c⟩
  rw [wire_traffic, heard, Traffic.taken_deliver, traffic_of_send_ok sent, Traffic.taken_flush,
    Traffic.taken_take, wire_traffic]

theorem command_sends {stage : Stage} {r : Except Fault Unit} (h : l.command c stage = (r, l')) :
    Wire.Sends (failsLine r) l.wire l'.wire := by
  unfold command at h
  split at h
  · rename_i unsent
    cases h
    exact sends_of_issue_error unsent
  · rename_i issued
    unfold awaitAck at h
    split at h <;> rename_i heard
    · cases h
      obtain ⟨n, delivered⟩ := traffic_of_receiveByte heard
      exact sends_of_issue_ok _ issued delivered
    · obtain ⟨n, delivered⟩ := traffic_of_receiveByte heard
      split at h <;> cases h <;> exact sends_of_issue_ok _ issued delivered

theorem fetch_sends {length : UInt32} {address : UInt64} {r : Except Fault Bytes}
    (h : l.fetch length address = (r, l')) : Wire.Sends (failsLine r) l.wire l'.wire := by
  unfold fetch at h
  split at h
  · rename_i unsent
    cases h
    exact sends_of_issue_error unsent
  · rename_i issued
    split at h <;> rename_i heard <;> cases h
    · obtain ⟨n, -, delivered⟩ := traffic_of_receive_error heard
      exact sends_of_issue_ok _ issued delivered
    · obtain ⟨-, delivered⟩ := traffic_of_receive_ok heard
      exact sends_of_issue_ok _ issued delivered

end Line

/-- What is sent over a wire goes over from exchanges to calls: nothing is cut but the last frame, and only
where the line failed. -/
theorem Wire.lifts_sends :
    Lifts fun x (w w' : Wire σ) => Wire.Sends (x.any Fault.isLineFailure) w w' where
  nothing _ := .nothing _ _
  append first later := first.append later
  skipped usage h := by
    rw [Option.any_some, Fault.isLineFailure_of_isUsage usage] at h
    exact h
  command h := by
    rw [← failsLine_eq]
    exact Line.command_sends h
  fetch h := by
    rw [← failsLine_eq]
    exact Line.fetch_sends h

/-- The report tells of a line failure. -/
def Report.failsLine (r : Report) : Bool := r.failure?.any Fault.isLineFailure

namespace Held

/-- What an act brings tells of a line failure, be it in a report. -/
def tellsLineFailure : Except Fault Reply → Bool
  | .error e => e.isLineFailure
  | .ok (.report report) => report.failsLine
  | .ok _ => false

/-- What acts bring, one after the other. -/
def replies : List Act → Held σ → List (Except Fault Reply)
  | [], _ => []
  | act :: rest, h => (h.act act).1 :: replies rest (h.act act).2

variable {h : Held σ}

/-- A greeting that is refused has sent the whole magic. -/
theorem taken_of_rebuffs {start : Start} {e : Fault} {w w' : Wire σ} (rebuffs : w.Rebuffs start e w')
    (answered : e.isLineFailure = false) : w'.traffic.taken = w.traffic.taken ++ Protocol.magic := by
  cases rebuffs with
  | unready _ _ | unsent _ _ | unheard _ _ _ => cases answered
  | refused waits sent heard _ =>
    obtain ⟨m, n, traffic⟩ := waits.traffic_of_nocked sent heard
    rw [traffic]
    simp

/-- The greeting of an idle connection, which has sent nothing so far. -/
theorem whole_of_greet {start : Start} {l l' : Line σ} {r : Except Fault Unit} (silent : l.traffic.taken = [])
    (greeted : l.greet start = (r, l')) :
    IsFront l'.traffic.taken ∧ (failsLine r = false → Whole (.ofGreeting r) l'.traffic.taken) := by
  cases r with
  | ok _ =>
    have taken := (Line.greets_of_greet_ok greeted).taken
    rw [Line.wire_traffic, Line.wire_traffic, silent, List.nil_append] at taken
    have whole : Whole .established l'.traffic.taken := by
      rw [taken, ← List.append_nil Protocol.magic]
      exact .established []
    exact ⟨whole.isFront, fun _ => whole⟩
  | error e =>
    have rebuffs := Line.rebuffs_of_greet_error greeted
    obtain ⟨part, front, taken⟩ := rebuffs.taken
    rw [Line.wire_traffic, Line.wire_traffic, silent, List.nil_append] at taken
    rw [taken]
    refine ⟨⟨[], front.trans (List.prefix_append ..)⟩, ?_⟩
    intro answered
    have nocked := taken_of_rebuffs rebuffs answered
    rw [Line.wire_traffic, Line.wire_traffic, silent, List.nil_append, taken] at nocked
    rw [nocked]
    exact .failed

/-- An act leaves whole frames behind it, and one more at most that it tells about. -/
theorem whole_of_act (act : Act) (whole : Whole h.conn.phase h.conn.line.traffic.taken) :
    IsFront (h.act act).2.conn.line.traffic.taken ∧
      (tellsLineFailure (h.act act).1 = false →
        Whole (h.act act).2.conn.phase (h.act act).2.conn.line.traffic.taken) := by
  have still : IsFront h.conn.line.traffic.taken ∧
      (tellsLineFailure (h.act act).1 = false → Whole h.conn.phase h.conn.line.traffic.taken) :=
    ⟨whole.isFront, fun _ => whole⟩
  cases act with
  | connect start =>
    by_cases idle : h.conn.phase = .idle
    · rw [idle] at whole
      have greeted := whole_of_greet whole.of_idle (Prod.eta (h.conn.line.greet start)).symm
      rw [act_connect_of_idle idle]
      refine ⟨greeted.1, ?_⟩
      intro uncut
      apply greeted.2
      generalize (h.conn.line.greet start).1 = r at uncut
      cases r <;> exact uncut
    · rw [act_connect_of_not_idle idle] at still ⊢
      exact still
  | openAt address chunkSize =>
    by_cases established : h.conn.phase = .established
    · obtain ⟨a, opened, same⟩ := act_openAt_of_established established address chunkSize
      rw [opened] at still ⊢
      dsimp only [conn]
      rw [same]
      exact still
    · rw [act_openAt_of_not_established established] at still ⊢
      exact still
  | call c =>
    cases h with
    | free conn => exact still
    | through a =>
      rcases called : a.call c with ⟨r, a'⟩
      have here : Whole .established a.wire.traffic.taken := a.established ▸ whole
      obtain ⟨front, uncut⟩ := here.sends (Wire.lifts_sends.call called)
      dsimp only [act]
      rw [called]
      dsimp only [conn]
      rw [a'.established]
      refine ⟨front, ?_⟩
      intro quiet
      apply uncut
      cases r <;> exact quiet
  | fulfil storage request =>
    cases h with
    | free conn => exact still
    | through a =>
      have here : Whole .established a.wire.traffic.taken := a.established ▸ whole
      have sent := here.sends (Wire.lifts_sends.performAll storage request.actions a)
      have established := (a.fulfil storage request).2.established
      dsimp only [act, conn]
      rw [established]
      exact sent

/-- As long as no act tells of a line failure, only whole frames were sent. -/
theorem whole_of_after (acts : List Act) (whole : Whole h.conn.phase h.conn.line.traffic.taken)
    (quiet : ∀ r ∈ h.replies acts, tellsLineFailure r = false) :
    Whole (h.after acts).conn.phase (h.after acts).conn.line.traffic.taken := by
  induction acts generalizing h with
  | nil => exact whole
  | cons act rest ih =>
    rw [replies, List.forall_mem_cons] at quiet
    exact ih ((whole_of_act act whole).2 quiet.1) quiet.2

/-- A greeting that tells of a line failure leaves a failed connection. -/
theorem phase_of_connect_failing {start : Start}
    (tells : tellsLineFailure (h.act (.connect start)).1 = true) :
    (h.act (.connect start)).2.conn.phase = .failed := by
  by_cases idle : h.conn.phase = .idle
  · rw [act_connect_of_idle idle] at tells ⊢
    rcases greeted : h.conn.line.greet start with ⟨e | _, line⟩
    · rfl
    · rw [greeted] at tells
      cases tells
  · rw [act_connect_of_not_idle idle] at tells
    cases tells

/-- Any other act that tells of one leaves an established connection. -/
theorem phase_of_session_failing {act : Act} (session : ∀ start, act ≠ .connect start)
    (tells : tellsLineFailure (h.act act).1 = true) : (h.act act).2.conn.phase = .established := by
  cases act with
  | connect start => exact absurd rfl (session start)
  | openAt address chunkSize =>
    by_cases established : h.conn.phase = .established
    · exact phase_of_act_of_established established _
    · rw [act_openAt_of_not_established established] at tells
      cases tells
  | call _ | fulfil _ _ =>
    cases h with
    | free conn => cases tells
    | through a =>
      have established : (through a).conn.phase = .established := a.established
      exact phase_of_act_of_established established _

/-- What a line failure in an act behind others comes to. -/
structure LineFailure (first : Held σ) (acts : List Act) (act : Act) : Prop where
  /-- Up to the first line failure, all but the last frame are whole. -/
  front : (∀ r ∈ first.replies acts, tellsLineFailure r = false) →
    IsFront ((first.after acts).act act).2.conn.line.traffic.taken
  /-- Without a line failure, the last one is whole as well. -/
  whole : (∀ r ∈ first.replies acts, tellsLineFailure r = false) →
    tellsLineFailure ((first.after acts).act act).1 = false →
    Whole ((first.after acts).act act).2.conn.phase ((first.after acts).act act).2.conn.line.traffic.taken
  /-- A greeting that fails so leaves a connection that is out of reach for good. -/
  greeting : tellsLineFailure ((first.after acts).act act).1 = true → (∃ start, act = .connect start) →
    ((first.after acts).act act).2.conn.phase = .failed ∧
      ∀ later, (((first.after acts).act act).2.after later).conn = ((first.after acts).act act).2.conn
  /-- A session that fails so leaves a connection that is established, and stays so. -/
  session : tellsLineFailure ((first.after acts).act act).1 = true → (∀ start, act ≠ .connect start) →
    ∀ later, (((first.after acts).act act).2.after later).conn.phase = .established

/-- A line failure cuts one frame at most. It ends the connection when it happens in the greeting, and
leaves it established when it happens in a session. -/
theorem line_failure_ends_greeting_only (port : σ) (acts : List Act) (act : Act) :
    LineFailure (free (.ofPort port)) acts act := by
  have fresh : Whole (free (.ofPort port)).conn.phase (free (.ofPort port)).conn.line.traffic.taken := .idle
  constructor
  case front =>
    intro quiet
    exact (whole_of_act act (whole_of_after acts fresh quiet)).1
  case whole =>
    intro quiet still
    exact (whole_of_act act (whole_of_after acts fresh quiet)).2 still
  case greeting =>
    rintro tells ⟨start, rfl⟩
    have failed := phase_of_connect_failing tells
    exact ⟨failed, conn_of_after_of_failed failed⟩
  case session =>
    intro tells session
    exact phase_of_after_of_established (phase_of_session_failing session tells)

/-- A line that breaks in the middle of the first frame behind the magic, and then carries on. -/
def breaking : Scripted where
  reads := [.data [Protocol.ack, Protocol.ack]]
  writes := [.upTo 8, .upTo 5, .fault (.plain .brokenPipe)]

/-- A session that is one jump. -/
def jumping : List Act := [.openAt 0 .largest, .call (.perform noFiles .jump)]

/-- A jump that is cut short leaves the connection established, and the jump of the next session goes
out behind it. The board takes its front for what was missing, and what is on the line by then is no
front of whole frames any more. -/
theorem breaking_line_is_sent_another_jump :
    ((free (.ofPort breaking)).replies (.connect .nock :: jumping)).map tellsLineFailure = [false, false, true] ∧
      ((free (.ofPort breaking)).after (.connect .nock :: jumping)).conn.phase = .established ∧
      ((free (.ofPort breaking)).after (.connect .nock :: jumping)).conn.line.traffic.taken =
        Protocol.magic ++ [0x4A, 0, 0, 0, 0] ∧
      ((free (.ofPort breaking)).after (.connect .nock :: jumping ++ jumping)).conn.line.traffic.taken =
        Protocol.magic ++ [0x4A, 0, 0, 0, 0, 0x4A, 0, 0, 0, 0, 0, 0, 0, 0] ∧
      ¬ IsFront (Protocol.magic ++ [0x4A, 0, 0, 0, 0, 0x4A, 0, 0, 0, 0, 0, 0, 0, 0]) := by
  refine ⟨by decide +kernel, by decide +kernel, by decide +kernel, by decide +kernel, ?_⟩
  rintro ⟨said, front⟩
  rw [List.prefix_append_right_inj] at front
  obtain ⟨rest, stream⟩ := front
  -- the first nine bytes are a jump to an address that nobody asked for, and no frame begins with a zero
  have misread : ([0x4A, 0, 0, 0, 0, 0x4A, 0, 0, 0, 0, 0, 0, 0, 0] : Bytes) =
      (Command.jumpTo 0x4A000000).encode ++ [0, 0, 0, 0, 0] := by decide
  rw [misread, List.append_assoc] at stream
  cases said with
  | nil => simp [Command.encode] at stream
  | cons c said =>
    rw [List.flatMap_cons] at stream
    obtain ⟨-, behind⟩ := Command.encode_append_inj stream
    cases said with
    | nil => simp at behind
    | cons d said =>
      rw [List.flatMap_cons, Command.encode, List.cons_append, List.cons_append] at behind
      have zero : 0 = d.tag.byte := (List.cons.inj behind).1
      cases d <;> cases zero

end Held

end BootHost
