import BootHost.Proofs.Lockstep

/-!
# The language of success

Which incoming bytes make a run succeed, on a port that takes everything. `Command.Heard` is what a
board says that does all of a plan, one whole answer behind the other; on a port that plays a tape,
a conversation is complete exactly when the tape begins with such bytes, and then it receives them
and no more. `Setup.ServedBy` is the language of a whole run, in its five parts.
-/

namespace BootHost

namespace Command

/-- What a board says that does all of a plan, and what the reads of the plan bring by it. -/
inductive Heard : List Command → Bytes → List (UInt64 × Bytes) → Prop where
  | nil : Heard [] [] []
  | cons {c : Command} {plan : List Command} {answer heard : Bytes} {brings : List (UInt64 × Bytes)} :
      c.AnsweredBy answer → Heard plan heard brings →
      Heard (c :: plan) (answer ++ heard) ((reading? (c, answer)).toList ++ brings)

theorem Heard.length {plan : List Command} {heard : Bytes} {brings : List (UInt64 × Bytes)}
    (h : Heard plan heard brings) : heard.length = answersLength plan := by
  induction h with
  | nil => rfl
  | cons answered _ ih => rw [List.length_append, answered.length, ih, answersLength]

theorem heard_append_iff {first second : List Command} {heard : Bytes} {brings : List (UInt64 × Bytes)} :
    Heard (first ++ second) heard brings ↔
      ∃ heard₁ brings₁ heard₂ brings₂, Heard first heard₁ brings₁ ∧ Heard second heard₂ brings₂ ∧
        heard = heard₁ ++ heard₂ ∧ brings = brings₁ ++ brings₂ := by
  constructor
  · intro h
    induction first generalizing heard brings with
    | nil => exact ⟨[], [], heard, brings, .nil, h, rfl, rfl⟩
    | cons c first ih =>
      cases h with
      | @cons _ _ answer heard brings answered later =>
        obtain ⟨heard₁, brings₁, heard₂, brings₂, h₁, h₂, rfl, rfl⟩ := ih later
        refine ⟨_, _, heard₂, brings₂, .cons answered h₁, h₂, ?_, ?_⟩
        · rw [List.append_assoc]
        · rw [List.append_assoc]
  · rintro ⟨heard₁, brings₁, heard₂, brings₂, h₁, h₂, rfl, rfl⟩
    induction h₁ with
    | nil => exact h₂
    | cons answered _ ih =>
      rw [List.append_assoc, List.append_assoc]
      exact .cons answered ih

theorem heard_nil_iff {heard : Bytes} {brings : List (UInt64 × Bytes)} :
    Heard [] heard brings ↔ heard.length = 0 ∧ brings = [] := by
  constructor
  · intro h
    cases h
    exact ⟨rfl, rfl⟩
  · rintro ⟨empty, rfl⟩
    rw [List.length_eq_zero_iff.1 empty]
    exact .nil

theorem heard_read_iff {length : UInt32} {address : UInt64} {heard : Bytes}
    {brings : List (UInt64 × Bytes)} :
    Heard [readBlock length address] heard brings ↔
      heard.length = length.toNat ∧ brings = [(address, heard)] := by
  constructor
  · intro h
    cases h with
    | @cons _ _ answer rest brings answered none =>
      obtain ⟨empty, rfl⟩ := heard_nil_iff.1 none
      rw [List.length_eq_zero_iff.1 empty, List.append_nil]
      exact ⟨answered, rfl⟩
  · rintro ⟨whole, rfl⟩
    have answered : (readBlock length address).AnsweredBy heard := whole
    simpa [readBlock, reading?] using Heard.cons answered .nil

/-- Commands that do not read are each acknowledged. -/
theorem heard_iff_of_no_read {plan : List Command} (hp : ∀ c ∈ plan, c.tag ≠ .read) {heard : Bytes}
    {brings : List (UInt64 × Bytes)} :
    Heard plan heard brings ↔ heard = List.replicate plan.length Protocol.ack ∧ brings = [] := by
  constructor
  · intro h
    induction h with
    | nil => exact ⟨rfl, rfl⟩
    | @cons c plan answer heard brings answered _ ih =>
      have noRead := hp c List.mem_cons_self
      have later : ∀ c ∈ plan, c.tag ≠ .read := by
        intro c hc
        exact hp c (List.mem_cons_of_mem _ hc)
      obtain ⟨rfl, rfl⟩ := ih later
      rw [(answeredBy_iff noRead).1 answered, reading?_eq_none noRead]
      exact ⟨rfl, rfl⟩
  · rintro ⟨rfl, rfl⟩
    induction plan with
    | nil => exact .nil
    | cons c plan ih =>
      have noRead := hp c List.mem_cons_self
      have later : ∀ c ∈ plan, c.tag ≠ .read := by
        intro c hc
        exact hp c (List.mem_cons_of_mem _ hc)
      have all : Heard (c :: plan) ([Protocol.ack] ++ List.replicate plan.length Protocol.ack)
          ((reading? (c, [Protocol.ack])).toList ++ []) := by
        apply Heard.cons
        · exact (answeredBy_iff noRead).2 rfl
        · exact ih later
      rwa [reading?_eq_none noRead] at all

end Command

namespace Setup

variable (s : Setup) (content : Bytes)

/-- How many bytes the board is asked to send: none, if no read is asked for or there is no address
left for it. -/
def dataLength : Nat :=
  match s.request.readLength, s.cursor content with
  | some length, some _ => length.toNat
  | _, _ => 0

/-- What the board answers to all commands of a run, when `data` is what it reads: one
acknowledgment for each block of the file, one for the value, the data, and one for the jump. -/
def answer (data : Bytes) : Bytes :=
  List.replicate (s.fileBlocks content) Protocol.ack ++
    List.replicate (if (s.valueWrite content).isSome then 1 else 0) Protocol.ack ++ data ++
    List.replicate (if (s.finalJump content).isSome then 1 else 0) Protocol.ack

/-- What the report says was read. -/
def reading (data : Bytes) : List (UInt64 × Bytes) :=
  match s.request.readLength, s.cursor content with
  | some _, some address => [(address, data)]
  | _, _ => []

/-- What a board says to a run in which nothing fails. -/
structure ServedBy (data heard : Bytes) : Prop where
  length : data.length = s.dataLength content
  parts : ∃ greeting, (Start.ofSkipWait s.skipWait).GreetedBy greeting ∧
    heard = greeting ++ s.answer content data

theorem heard_blockRead_iff {heard : Bytes} {brings : List (UInt64 × Bytes)} :
    Command.Heard (s.blockRead content).toList heard brings ↔
      heard.length = s.dataLength content ∧ brings = s.reading content heard := by
  unfold blockRead dataLength reading
  cases s.request.readLength with
  | none => exact Command.heard_nil_iff
  | some length =>
    cases s.cursor content with
    | none => exact Command.heard_nil_iff
    | some address => exact Command.heard_read_iff

/-- What a board says that does all commands of a run. -/
theorem heard_commands_iff {heard : Bytes} {brings : List (UInt64 × Bytes)} :
    Command.Heard (s.commands content) heard brings ↔
      ∃ data, data.length = s.dataLength content ∧ heard = s.answer content data ∧
        brings = s.reading content data := by
  unfold commands answer
  rw [← length_fileWrites, ← Option.length_toList, ← Option.length_toList]
  constructor
  · intro h
    obtain ⟨_, _, said₄, brings₄, h₃, jump, rfl, rfl⟩ := Command.heard_append_iff.1 h
    obtain ⟨_, _, data, brings₃, h₂, read, rfl, rfl⟩ := Command.heard_append_iff.1 h₃
    obtain ⟨said₁, brings₁, said₂, brings₂, file, value, rfl, rfl⟩ := Command.heard_append_iff.1 h₂
    obtain ⟨rfl, rfl⟩ := (Command.heard_iff_of_no_read (s.fileWrites_tag content)).1 file
    obtain ⟨rfl, rfl⟩ := (Command.heard_iff_of_no_read (s.valueWrite_tag content)).1 value
    obtain ⟨length, rfl⟩ := (s.heard_blockRead_iff content).1 read
    obtain ⟨rfl, rfl⟩ := (Command.heard_iff_of_no_read (s.finalJump_tag content)).1 jump
    exact ⟨data, length, rfl, by simp⟩
  · rintro ⟨data, length, rfl, rfl⟩
    have file := (Command.heard_iff_of_no_read (s.fileWrites_tag content)).2 ⟨rfl, rfl⟩
    have value := (Command.heard_iff_of_no_read (s.valueWrite_tag content)).2 ⟨rfl, rfl⟩
    have read := (s.heard_blockRead_iff content).2 ⟨length, rfl⟩
    have jump := (Command.heard_iff_of_no_read (s.finalJump_tag content)).2 ⟨rfl, rfl⟩
    refine Command.heard_append_iff.2 ⟨_, _, _, _, ?_, jump, rfl, by rw [List.append_nil]⟩
    refine Command.heard_append_iff.2 ⟨_, [], _, _, ?_, read, rfl, rfl⟩
    exact Command.heard_append_iff.2 ⟨_, [], _, [], file, value, rfl, rfl⟩

end Setup

section Taped

variable {σ : Type} [Port σ] [Taped σ] {c : Command} {w w' : Wire σ} {incoming : Bytes}

theorem follows_of_plays {l : Line σ} (h : Taped.Plays incoming none l.port) :
    l.Follows ⟨incoming, none, l.traffic⟩ := ⟨h, rfl⟩

/-- On a port that takes everything a command goes out. -/
theorem sent_of_plays {l m : Line σ} {r : Except DeviceFault Unit}
    (h : Taped.Plays incoming none l.port) (hs : l.send c.encode = (r, m)) :
    r = .ok () ∧ Taped.Plays incoming none m.port := by
  obtain ⟨t, ht, follows⟩ := (hs ▸ Line.send_follows c.encode (follows_of_plays h)).right
  obtain ⟨rfl, rfl⟩ : .ok () = r ∧ _ = t := by simpa [Tape.send, Tape.hasRoom] using ht
  exact ⟨rfl, follows.port⟩

theorem heard_of_plays {l m : Line σ} {n : Nat} {bytes : Bytes} (h : Taped.Plays incoming none l.port)
    (hr : l.receive n = (.ok bytes, m)) :
    bytes = incoming.take n ∧ Taped.Plays (incoming.drop n) none m.port := by
  obtain ⟨t, ht, follows⟩ := (hr ▸ Line.receive_follows n (follows_of_plays h)).right
  unfold Tape.receive at ht
  split at ht
  · obtain ⟨rfl, rfl⟩ : incoming.take n = bytes ∧ _ = t := by simpa using ht
    exact ⟨rfl, follows.port⟩
  · simp at ht

theorem short_of_plays {l m : Line σ} {n : Nat} {e : DeviceFault} (h : Taped.Plays incoming none l.port)
    (hr : l.receive n = (.error e, m)) : incoming.length < n := by
  obtain ⟨t, ht, follows⟩ := (hr ▸ Line.receive_follows n (follows_of_plays h)).right
  unfold Tape.receive at ht
  split at ht
  · simp at ht
  · rename_i short
    exact Nat.lt_of_not_le short

/-- An answer is the front of what the port had to deliver. -/
theorem Wire.Answers.heard {answer : Bytes} (h : w.Answers c answer w')
    (plays : Taped.Plays incoming none w.port) :
    c.AnsweredBy answer ∧ ∃ rest, incoming = answer ++ rest ∧ Taped.Plays rest none w'.port := by
  cases h with
  | intro sent heard answered =>
    obtain ⟨-, plays⟩ := sent_of_plays plays sent
    obtain ⟨front, plays⟩ := heard_of_plays plays heard
    refine ⟨answered, _, ?_, plays⟩
    rw [front, List.take_append_drop]

/-- A command that breaks was not answered by what the port had to deliver. -/
theorem Wire.Breaks.unanswered {answer rest : Bytes} (h : w.Breaks c w')
    (plays : Taped.Plays (answer ++ rest) none w.port) : ¬ c.AnsweredBy answer := by
  intro answered
  cases h with
  | unsent sent =>
    obtain ⟨impossible, -⟩ := sent_of_plays plays sent
    cases impossible
  | unheard sent heard =>
    obtain ⟨-, plays⟩ := sent_of_plays plays sent
    have short := short_of_plays plays heard
    rw [List.length_append, answered.length] at short
    omega
  | refused sent heard refusal =>
    obtain ⟨-, plays⟩ := sent_of_plays plays sent
    obtain ⟨front, -⟩ := heard_of_plays plays heard
    rw [← answered.length, List.take_left] at front
    exact refusal (front ▸ answered)

/-- A complete conversation has heard its plan. -/
theorem Conversation.heard {plan : List Command} {answers : List Bytes}
    (h : Conversation plan answers true w w') (plays : Taped.Plays incoming none w.port) :
    ∃ heard rest, Command.Heard plan heard (Command.readings plan answers) ∧ incoming = heard ++ rest ∧
      Taped.Plays rest none w'.port := by
  generalize hc : true = complete at h
  induction h generalizing incoming with
  | done => exact ⟨[], incoming, .nil, rfl, plays⟩
  | broken _ => cases hc
  | @step c plan answer answers complete w w' w'' answered _ ih =>
    obtain ⟨isAnswer, later, rfl, next⟩ := answered.heard plays
    obtain ⟨heard, rest, all, rfl, ended⟩ := ih next hc
    refine ⟨answer ++ heard, rest, ?_, by rw [List.append_assoc], ended⟩
    rw [Command.readings_cons]
    exact .cons isAnswer all

/-- A conversation over a port that has all answers to deliver is complete. -/
theorem Conversation.complete_of_heard {plan : List Command} {answers : List Bytes} {complete : Bool}
    {heard rest : Bytes} {brings : List (UInt64 × Bytes)} (h : Conversation plan answers complete w w')
    (all : Command.Heard plan heard brings) (plays : Taped.Plays (heard ++ rest) none w.port) :
    complete = true ∧ Command.readings plan answers = brings ∧ Taped.Plays rest none w'.port := by
  induction h generalizing heard brings with
  | done =>
    cases all
    exact ⟨rfl, rfl, plays⟩
  | broken breaks =>
    cases all with
    | cons isAnswer later =>
      rw [List.append_assoc] at plays
      exact absurd isAnswer (breaks.unanswered plays)
  | @step c plan answer answers complete w w' w'' answered _ ih =>
    cases all with
    | @cons _ _ answer' heard brings isAnswer later =>
      obtain ⟨isAnswer', rest', cut, next⟩ := answered.heard plays
      rw [List.append_assoc] at cut
      -- the command tells how long its answer is, so there is but one way to cut the incoming bytes
      obtain ⟨rfl, rfl⟩ := List.append_inj cut (isAnswer.length.trans isAnswer'.length.symm)
      obtain ⟨through, rfl, ended⟩ := ih later next
      exact ⟨through, Command.readings_cons .., ended⟩

end Taped

namespace Connection

variable {storage : Storage} {setup : Setup} {content : Bytes} {port : Queued}

/-- What a successful run has received. -/
theorem served_of_success {report : Report}
    (hf : storage.Provides setup.request content) (room : port.room = none)
    (hr : ((ofPort port).run storage setup).1 = .ok report) (success : report.isSuccess = true) :
    ∃ data heard rest, setup.ServedBy content data heard ∧ port.incoming = heard ++ rest := by
  rcases hc : (ofPort port).connect (.ofSkipWait setup.skipWait) with ⟨e | _, conn'⟩
  · rw [run_of_connect_error hc] at hr
    simp at hr
  · have follows : (ofPort port).line.Follows ⟨port.incoming, none, {}⟩ := ⟨⟨rfl, room⟩, rfl⟩
    obtain ⟨greeting, rest, before, behind, word, cut, both, same⟩ := incoming_of_connect follows hc
    obtain ⟨report', ended, answers, run, conversation, -⟩ := run_works hf hc
    obtain rfl : report' = report := by simpa [run] using hr
    rw [success] at conversation
    obtain ⟨heard, rest', all, rfl, -⟩ := conversation.heard (same.plays_behind rfl cut both)
    obtain ⟨data, length, rfl, -⟩ := (setup.heard_commands_iff content).1 all
    refine ⟨data, _, rest', ⟨length, greeting, word, rfl⟩, ?_⟩
    rw [List.append_assoc]
    exact cut

/-- A run that is served succeeds, and receives what it is served by and no more. -/
theorem success_of_served {data heard rest : Bytes}
    (hf : storage.Provides setup.request content) (room : port.room = none)
    (served : setup.ServedBy content data heard) (cut : port.incoming = heard ++ rest) :
    ∃ report ended, (ofPort port).run storage setup = (.ok report, ended) ∧ report.isSuccess = true ∧
      report.readings = setup.reading content data ∧ ended.line.port.incoming = rest ∧
      ended.line.traffic.delivered = heard.length := by
  obtain ⟨greeting, word, rfl⟩ := served.parts
  rw [List.append_assoc] at cut
  have follows : (ofPort port).line.Follows ⟨port.incoming, none, {}⟩ := ⟨⟨rfl, room⟩, rfl⟩
  obtain ⟨conn', before, behind, hc, both, same⟩ := connect_of_incoming rfl follows rfl word cut
  obtain ⟨report, ended, answers, run, conversation, reads⟩ := run_works hf hc
  have all := (setup.heard_commands_iff content).2 ⟨data, served.length, rfl, rfl⟩
  obtain ⟨success, brings, plays⟩ := conversation.complete_of_heard all (same.plays_behind rfl cut both)
  obtain ⟨-, settled, delivered⟩ := same.opening
  obtain ⟨sent, -, -, -, exactly⟩ := conversation.lockstep settled
  refine ⟨report, ended, run, success, reads.symm.trans brings, plays.1, ?_⟩
  rw [← Line.wire_traffic, (exactly success).2, Line.wire_traffic, delivered, both, List.length_append,
    all.length]

/-- A run succeeds exactly on the incoming bytes that begin with what its set-up is served by. It
then receives those bytes and no more, and reports as read what stands for the data in them. -/
theorem run_succeeds_iff (storage : Storage) (setup : Setup) (content : Bytes) (port : Queued)
    (hf : storage.Provides setup.request content) (room : port.room = none) :
    ((∃ report, ((ofPort port).run storage setup).1 = .ok report ∧ report.isSuccess = true) ↔
      ∃ data heard rest, setup.ServedBy content data heard ∧ port.incoming = heard ++ rest) ∧
    ∀ data heard rest, setup.ServedBy content data heard → port.incoming = heard ++ rest →
      ∃ report, ((ofPort port).run storage setup).1 = .ok report ∧ report.exitCode = 0 ∧
        report.readings = setup.reading content data ∧
        ((ofPort port).run storage setup).2.line.port.incoming = rest ∧
        ((ofPort port).run storage setup).2.line.traffic.delivered = heard.length := by
  constructor
  · constructor
    · rintro ⟨report, hr, success⟩
      exact served_of_success hf room hr success
    · rintro ⟨data, heard, rest, served, cut⟩
      obtain ⟨report, ended, run, success, -⟩ := success_of_served hf room served cut
      exact ⟨report, by rw [run], success⟩
  · intro data heard rest served cut
    obtain ⟨report, ended, run, success, readings, left, delivered⟩ :=
      success_of_served hf room served cut
    rw [run]
    refine ⟨report, rfl, ?_, readings, left, delivered⟩
    rw [Report.exitCode, if_pos success]

/-- A board that says something before it is ready, and a file, a read and a jump. -/
theorem run_succeeds_iff_of_noisy_board :
    Storage.Provides (fun _ => .ok (.regular [1, 2, 3]))
        { writeFile := some "a", readLength := some 2, jump := true } [1, 2, 3] ∧
      (Queued.mk [0x0A, 0x41, 0x41, 0x59, 0x59, 7, 8, 0x59, 0x41] (some 1) none 2 none).room = none ∧
      Setup.ServedBy
        { address := 0x40, request := { writeFile := some "a", readLength := some 2, jump := true } }
        [1, 2, 3] [7, 8] [0x0A, 0x41, 0x41, 0x59, 0x59, 7, 8, 0x59] ∧
      ∃ report, ((ofPort (Queued.mk [0x0A, 0x41, 0x41, 0x59, 0x59, 7, 8, 0x59, 0x41] (some 1) none 2 none)).run
          (fun _ => .ok (.regular [1, 2, 3]))
          { address := 0x40, request := { writeFile := some "a", readLength := some 2, jump := true } }).1 =
            .ok report ∧ report.exitCode = 0 ∧ report.readings = [(0x43, [7, 8])] := by
  have provides : Storage.Provides (fun _ => .ok (.regular [1, 2, 3]))
      { writeFile := some "a", readLength := some 2, jump := true } [1, 2, 3] := by
    intro path _
    exact ⟨_, rfl, OpenFile.regular_holds _⟩
  have served : Setup.ServedBy
      { address := 0x40, request := { writeFile := some "a", readLength := some 2, jump := true } }
      [1, 2, 3] [7, 8] [0x0A, 0x41, 0x41, 0x59, 0x59, 7, 8, 0x59] :=
    { length := by decide
      parts := ⟨[0x0A, 0x41, 0x41, 0x59], @Start.GreetedBy.awaitBoard [0x0A] (by decide) 1, by decide⟩ }
  obtain ⟨report, run, success, readings, -⟩ :=
    (run_succeeds_iff _ _ _ (Queued.mk _ (some 1) none 2 none) provides rfl).2 _ _ [0x41] served rfl
  exact ⟨provides, rfl, served, report, run, success, readings⟩

end Connection

end BootHost
