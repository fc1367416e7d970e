import BootHost.Line.Exchange
import BootHost.Proofs.Transfer

/-!
# Conversations

A conversation works through a plan of commands over any port: each command goes out as a whole, its
whole answer is read, and only then does the next one go out. It breaks at the first command that is
not sent, not answered, or refused, and nothing of the plan behind it is ever sent.
-/

namespace BootHost

/-- A line without what the host told about it. -/
structure Wire (σ : Type) where
  port : σ
  traffic : Traffic

variable {σ : Type}

/-- The wire of a line. -/
def Line.wire (l : Line σ) : Wire σ := ⟨l.port, l.traffic⟩

@[simp] theorem Line.wire_note (n : Note) (l : Line σ) : (l.note n).wire = l.wire := rfl

@[simp] theorem Line.wire_traffic (l : Line σ) : l.wire.traffic = l.traffic := rfl

namespace Command

variable {c : Command} {answer : Bytes}

/-- The board did what was asked: it sent the block that was to be read, or an acknowledgment. -/
def AnsweredBy : Command → Bytes → Prop
  | .read h, answer => answer.length = h.length.toNat
  | _, answer => answer = [Protocol.ack]

theorem answeredBy_iff (h : c.tag ≠ .read) : c.AnsweredBy answer ↔ answer = [Protocol.ack] := by
  cases c with
  | read _ => exact absurd rfl h
  | write _ _ => exact Iff.rfl
  | jump _ => exact Iff.rfl

theorem answerLength_eq_one (h : c.tag ≠ .read) : c.answerLength = 1 := by
  cases c with
  | read _ => exact absurd rfl h
  | write _ _ => rfl
  | jump _ => rfl

theorem AnsweredBy.length (h : c.AnsweredBy answer) : answer.length = c.answerLength := by
  cases c with
  | read _ => exact h
  | write _ _ => exact congrArg List.length h
  | jump _ => exact congrArg List.length h

/-- What a read brings: the address it asks for, and the answer. -/
def reading? : Command × Bytes → Option (UInt64 × Bytes)
  | (.read h, answer) => some (h.address, answer)
  | _ => none

theorem reading?_eq_none (h : c.tag ≠ .read) : reading? (c, answer) = none := by
  cases c with
  | read _ => exact absurd rfl h
  | write _ _ => rfl
  | jump _ => rfl

/-- What the reads of a plan bring, as far as they are answered. -/
def readings (plan : List Command) (answers : List Bytes) : List (UInt64 × Bytes) :=
  (plan.zip answers).filterMap reading?

theorem readings_cons (c : Command) (plan : List Command) (answer : Bytes) (answers : List Bytes) :
    readings (c :: plan) (answer :: answers) = (reading? (c, answer)).toList ++ readings plan answers := by
  unfold readings
  rw [List.zip_cons_cons, List.filterMap_cons]
  cases reading? (c, answer) <;> rfl

theorem readings_eq_nil {plan : List Command} (h : ∀ c ∈ plan, c.tag ≠ .read) (answers : List Bytes) :
    readings plan answers = [] := by
  unfold readings
  rw [List.filterMap_eq_nil_iff]
  rintro ⟨c, answer⟩ hm
  exact reading?_eq_none (h c (List.of_mem_zip hm).1)

end Command

variable [Port σ]

/-- A command goes out, and the board does what was asked. -/
inductive Wire.Answers (c : Command) (answer : Bytes) : Wire σ → Wire σ → Prop where
  | intro {l m m' : Line σ} : l.send c.encode = (.ok (), m) →
      m.receive c.answerLength = (.ok answer, m') → c.AnsweredBy answer → Answers c answer l.wire m'.wire

/-- A command does not go out, or is not answered, or is refused. -/
inductive Wire.Breaks (c : Command) : Wire σ → Wire σ → Prop where
  | unsent {l m : Line σ} {e : DeviceFault} : l.send c.encode = (.error e, m) → Breaks c l.wire m.wire
  | unheard {l m m' : Line σ} {e : DeviceFault} : l.send c.encode = (.ok (), m) →
      m.receive c.answerLength = (.error e, m') → Breaks c l.wire m'.wire
  | refused {l m m' : Line σ} {answer : Bytes} : l.send c.encode = (.ok (), m) →
      m.receive c.answerLength = (.ok answer, m') → ¬ c.AnsweredBy answer → Breaks c l.wire m'.wire

/-- A command that is to be acknowledged is not, and the fault that tells why. -/
inductive Wire.Fails (c : Command) (stage : Stage) : Fault → Wire σ → Wire σ → Prop where
  | unsent {l m : Line σ} {e : DeviceFault} : l.send c.encode = (.error e, m) →
      Fails c stage (.transport e) l.wire m.wire
  | unheard {l m m' : Line σ} {e : DeviceFault} : l.send c.encode = (.ok (), m) →
      m.receiveByte = (.error e, m') → Fails c stage (.transport e) l.wire m'.wire
  | refused {l m m' : Line σ} {b : UInt8} : l.send c.encode = (.ok (), m) →
      m.receiveByte = (.ok b, m') → b ≠ Protocol.ack →
      Fails c stage (.refused stage (.ofByte b)) l.wire m'.wire

/-- A command that is answered goes out in a group of its own, and its answer is read whole. -/
theorem Wire.Answers.traffic {c : Command} {answer : Bytes} {w w' : Wire σ} (h : w.Answers c answer w') :
    w'.traffic = (w.traffic.take c.encode).flush.deliver c.answerLength := by
  cases h with
  | intro sent heard _ =>
    rw [Line.wire_traffic, (Line.traffic_of_receive_ok heard).2, Line.traffic_of_send_ok sent,
      Line.wire_traffic]

/-- A command that breaks goes out in part, or goes out in a group of its own with no more read
behind it than its answer. -/
theorem Wire.Breaks.traffic {c : Command} {w w' : Wire σ} (h : w.Breaks c w') :
    (∃ part, part <+: c.encode ∧ w'.traffic = w.traffic.take part) ∨
      ∃ n, n ≤ c.answerLength ∧ w'.traffic = (w.traffic.take c.encode).flush.deliver n := by
  cases h with
  | unsent sent => exact Or.inl (Line.traffic_of_send_error sent)
  | unheard sent heard =>
    obtain ⟨n, less, traffic⟩ := Line.traffic_of_receive_error heard
    refine Or.inr ⟨n, Nat.le_of_lt less, ?_⟩
    rw [Line.wire_traffic, traffic, Line.traffic_of_send_ok sent, Line.wire_traffic]
  | refused sent heard _ =>
    refine Or.inr ⟨c.answerLength, Nat.le_refl _, ?_⟩
    rw [Line.wire_traffic, (Line.traffic_of_receive_ok heard).2, Line.traffic_of_send_ok sent,
      Line.wire_traffic]

/-- A plan is worked through, with an answer to each command, or until one breaks. -/
inductive Conversation : List Command → List Bytes → Bool → Wire σ → Wire σ → Prop where
  | done {w : Wire σ} : Conversation [] [] true w w
  | broken {c : Command} {plan : List Command} {w w' : Wire σ} :
      w.Breaks c w' → Conversation (c :: plan) [] false w w'
  | step {c : Command} {plan : List Command} {answer : Bytes} {answers : List Bytes} {complete : Bool}
      {w w' w'' : Wire σ} : w.Answers c answer w' → Conversation plan answers complete w' w'' →
      Conversation (c :: plan) (answer :: answers) complete w w''

namespace Conversation

variable {plan plan' : List Command} {answers answers' : List Bytes} {complete : Bool} {w w' w'' : Wire σ}

theorem single {c : Command} {answer : Bytes} (h : w.Answers c answer w') :
    Conversation [c] [answer] true w w' := .step h .done

/-- One plan is worked through after the other. -/
theorem append (h : Conversation plan answers true w w')
    (h' : Conversation plan' answers' complete w' w'') :
    Conversation (plan ++ plan') (answers ++ answers') complete w w'' := by
  generalize hc : true = through at h
  induction h with
  | done => exact h'
  | broken _ => cases hc
  | step answered _ ih => exact .step answered (ih h' hc)

/-- A conversation that broke does not reach what is planned behind it. -/
theorem extend (h : Conversation plan answers false w w') (plan' : List Command) :
    Conversation (plan ++ plan') answers false w w' := by
  generalize hc : false = through at h ⊢
  induction h with
  | done => cases hc
  | broken breaks => exact .broken breaks
  | step answered _ ih => exact .step answered (ih hc)

theorem readings_append (h : Conversation plan answers true w w') (plan' : List Command)
    (answers' : List Bytes) :
    Command.readings (plan ++ plan') (answers ++ answers') =
      Command.readings plan answers ++ Command.readings plan' answers' := by
  generalize hc : true = through at h
  induction h with
  | done => rfl
  | broken _ => cases hc
  | step _ _ ih =>
    simp only [List.cons_append, Command.readings_cons]
    rw [ih hc, List.append_assoc]

theorem readings_extend (h : Conversation plan answers false w w') (plan' : List Command) :
    Command.readings (plan ++ plan') answers = Command.readings plan answers := by
  generalize hc : false = through at h
  induction h with
  | done => cases hc
  | broken _ => rfl
  | step _ _ ih =>
    simp only [List.cons_append, Command.readings_cons]
    rw [ih hc]

end Conversation

namespace Line

variable {l l' : Line σ} {c : Command}

theorem receive_of_receiveByte_ok {b : UInt8} (h : l.receiveByte = (.ok b, l')) :
    l.receive 1 = (.ok [b], l') := by
  unfold receiveByte at h
  split at h
  · rename_i first rest m hm
    obtain ⟨rfl, rfl⟩ : first = b ∧ m = l' := by simpa using h
    have one : (first :: rest).length = 1 := (traffic_of_receive_ok hm).1
    obtain rfl : rest = [] := by simpa using one
    exact hm
  · simp at h
  · simp at h

theorem receive_of_receiveByte_error {e : DeviceFault} (h : l.receiveByte = (.error e, l')) :
    l.receive 1 = (.error e, l') := by
  unfold receiveByte at h
  split at h
  · simp at h
  · rename_i m hm
    have one : ([] : Bytes).length = 1 := (traffic_of_receive_ok hm).1
    simp at one
  · rename_i e' m hm
    obtain ⟨rfl, rfl⟩ : e' = e ∧ m = l' := by simpa using h
    exact hm

theorem send_of_issue_ok (h : l.issue c = (.ok (), l')) :
    ∃ k : Line σ, k.wire = l.wire ∧ k.send c.encode = (.ok (), l') := by
  refine ⟨(l.note (.sending c.tag c.payload.length)).note (.frame c.encode), rfl, ?_⟩
  unfold issue at h
  split at h
  · rename_i m hm
    obtain rfl : m = l' := by simpa using h
    exact hm
  · simp at h

theorem send_of_issue_error {e : Fault} (h : l.issue c = (.error e, l')) :
    ∃ (k : Line σ) (cause : DeviceFault), k.wire = l.wire ∧ k.send c.encode = (.error cause, l') ∧
      e = .transport cause := by
  unfold issue at h
  split at h
  · simp at h
  · rename_i cause m hm
    obtain ⟨rfl, rfl⟩ : .transport cause = e ∧ m = l' := by simpa using h
    exact ⟨(l.note (.sending c.tag c.payload.length)).note (.frame c.encode), cause, rfl, hm, rfl⟩

/-- A command that is acknowledged is answered. -/
theorem answers_of_command_ok {stage : Stage} (hc : c.tag ≠ .read)
    (h : l.command c stage = (.ok (), l')) : l.wire.Answers c [Protocol.ack] l'.wire := by
  unfold command at h
  split at h
  · simp at h
  · rename_i m hm
    obtain ⟨k, same, sent⟩ := send_of_issue_ok hm
    unfold awaitAck at h
    split at h
    · simp at h
    · rename_i b m' heard
      split at h
      · rename_i isAck
        subst isAck
        obtain rfl : m' = l' := by simpa using h
        rw [← same]
        refine .intro sent ?_ ((Command.answeredBy_iff hc).2 rfl)
        rw [Command.answerLength_eq_one hc]
        exact receive_of_receiveByte_ok heard
      · simp at h

/-- A command that is not acknowledged fails, and the fault tells why. -/
theorem fails_of_command_error {stage : Stage} {e : Fault} (h : l.command c stage = (.error e, l')) :
    l.wire.Fails c stage e l'.wire := by
  unfold command at h
  split at h
  · rename_i cause m hm
    obtain ⟨rfl, rfl⟩ : cause = e ∧ m = l' := by simpa using h
    obtain ⟨k, cause, same, sent, rfl⟩ := send_of_issue_error hm
    rw [← same]
    exact .unsent sent
  · rename_i m hm
    obtain ⟨k, same, sent⟩ := send_of_issue_ok hm
    rw [← same]
    unfold awaitAck at h
    split at h
    · rename_i cause m' heard
      obtain ⟨rfl, rfl⟩ : .transport cause = e ∧ m' = l' := by simpa using h
      exact .unheard sent heard
    · rename_i b m' heard
      split at h
      · simp at h
      · rename_i notAck
        obtain ⟨rfl, rfl⟩ : .refused stage (.ofByte b) = e ∧ m' = l' := by simpa using h
        exact .refused sent heard notAck

end Line

/-- A command that fails breaks, which is no usage fault. -/
theorem Wire.Fails.breaks {c : Command} {stage : Stage} {e : Fault} {w w' : Wire σ} (hc : c.tag ≠ .read)
    (h : w.Fails c stage e w') : w.Breaks c w' ∧ e.isUsage = false := by
  cases h with
  | unsent sent => exact ⟨.unsent sent, rfl⟩
  | @unheard l m m' cause sent heard =>
    have silence : m.receive c.answerLength = (.error cause, m') := by
      rw [Command.answerLength_eq_one hc]
      exact Line.receive_of_receiveByte_error heard
    exact ⟨.unheard sent silence, rfl⟩
  | @refused l m m' b sent heard notAck =>
    have refusal : m.receive c.answerLength = (.ok [b], m') := by
      rw [Command.answerLength_eq_one hc]
      exact Line.receive_of_receiveByte_ok heard
    refine ⟨.refused sent refusal ?_, rfl⟩
    rw [Command.answeredBy_iff hc]
    simpa using notAck

namespace Line

variable {l l' : Line σ} {c : Command}

/-- A command that is not acknowledged breaks, which is no usage fault. -/
theorem breaks_of_command_error {stage : Stage} {e : Fault} (hc : c.tag ≠ .read)
    (h : l.command c stage = (.error e, l')) : l.wire.Breaks c l'.wire ∧ e.isUsage = false :=
  (fails_of_command_error h).breaks hc

/-- A block that is fetched is the answer to its read. -/
theorem answers_of_fetch_ok {length : UInt32} {address : UInt64} {bytes : Bytes}
    (h : l.fetch length address = (.ok bytes, l')) :
    l.wire.Answers (.readBlock length address) bytes l'.wire := by
  unfold fetch at h
  split at h
  · simp at h
  · rename_i m hm
    obtain ⟨k, same, sent⟩ := send_of_issue_ok hm
    split at h
    · simp at h
    · rename_i data m' heard
      obtain ⟨rfl, rfl⟩ : data = bytes ∧ m'.note (.fetched data.length) = l' := by simpa using h
      rw [← same, wire_note]
      exact .intro sent heard (traffic_of_receive_ok heard).1

/-- A block that is not fetched breaks its read, which is no usage fault. -/
theorem breaks_of_fetch_error {length : UInt32} {address : UInt64} {e : Fault}
    (h : l.fetch length address = (.error e, l')) :
    l.wire.Breaks (.readBlock length address) l'.wire ∧ e.isUsage = false := by
  unfold fetch at h
  split at h
  · rename_i cause m hm
    obtain ⟨rfl, rfl⟩ : cause = e ∧ m = l' := by simpa using h
    obtain ⟨k, cause, same, sent, rfl⟩ := send_of_issue_error hm
    rw [← same]
    exact ⟨.unsent sent, rfl⟩
  · rename_i m hm
    obtain ⟨k, same, sent⟩ := send_of_issue_ok hm
    rw [← same]
    split at h
    · rename_i cause m' heard
      obtain ⟨rfl, rfl⟩ : .transport cause = e ∧ m' = l' := by simpa using h
      exact ⟨.unheard sent heard, rfl⟩
    · simp at h

end Line

end BootHost
