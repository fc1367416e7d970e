import BootHost.Proofs.Dispatch

/-!
# A request is a conversation

The actions of a request work through their plans, one after the other, until one of them does not
get through. That one is the only failure of the report, so the report is a success exactly when the
whole plan was worked through. Hence a run, once it is connected, is a conversation about the plan
of its set-up.
-/

namespace BootHost

open Memory

/-- The file that is to be written, if there is one, holds a content. -/
def Storage.Provides (storage : Storage) (request : Request) (content : Bytes) : Prop :=
  ∀ path, request.writeFile = some path → ∃ file, storage path = .ok file ∧ file.Holds content

/-- What an outcome says was read. -/
def Outcome.reading? : Outcome → Option (UInt64 × Bytes)
  | .read address data => some (address, data)
  | _ => none

/-- What the entries of a report say was read. -/
def Report.readings (r : Report) : List (UInt64 × Bytes) :=
  r.entries.filterMap fun e => e.outcome.reading?

namespace Report

theorem isSuccess_cons {entry : Entry} (h : entry.outcome.failure? = none) (entries : List Entry) :
    (mk (entry :: entries)).isSuccess = (mk entries).isSuccess := by
  simp [isSuccess, failure?, h]

theorem isSuccess_cons_of_failure {entry : Entry} (h : entry.outcome.failure? ≠ none)
    (entries : List Entry) : (mk (entry :: entries)).isSuccess = false := by
  obtain ⟨reason, hr⟩ := Option.ne_none_iff_exists'.1 h
  simp [isSuccess, failure?, hr]

theorem readings_cons (entry : Entry) (entries : List Entry) :
    (mk (entry :: entries)).readings = entry.outcome.reading?.toList ++ (mk entries).readings := by
  unfold readings
  rw [List.filterMap_cons]
  cases entry.outcome.reading? <;> rfl

end Report

theorem Request.writeFile_of_mem {r : Request} {path : String} (h : .writeFile path ∈ r.actions) :
    r.writeFile = some path := by
  cases hj : r.jump <;> simpa [actions, hj] using h

namespace Memory.Access

variable {σ : Type} [Port σ] {a a' : Access σ}

/-- What the outcome of an action says was read. -/
def readingsOf (r : Except Fault Outcome) : List (UInt64 × Bytes) := (r.toOption.bind Outcome.reading?).toList

/-- An action works through its plan, if the file that it may write holds the content. -/
theorem perform_works {storage : Storage} (content : Bytes) {action : Action}
    (hf : ∀ path, action = .writeFile path → ∃ file, storage path = .ok file ∧ file.Holds content)
    (a : Access σ) :
    Works (action.commands a.chunkSize content a.cursor) (readingsOf (a.perform storage action).1)
      (action.cursorAfter content a.cursor) a (a.perform storage action) := by
  cases action with
  | writeFile path =>
    obtain ⟨file, opened, holds⟩ := hf path rfl
    have works := writeFile_works opened holds a
    unfold perform
    dsimp only
    rcases hw : a.writeFile storage path with ⟨e | w, a'⟩ <;> rw [hw] at works <;>
      exact works.congr (.refl a) rfl (.refl a')
  | writeValue i =>
    have works := writeValue_works i a
    unfold perform
    dsimp only
    rcases hw : a.writeValue i.value i.length with ⟨e | w, a'⟩ <;> rw [hw] at works <;>
      exact works.congr (.refl a) rfl (.refl a')
  | read length =>
    have works := read_works length a
    unfold perform
    dsimp only
    rcases hw : a.read length with ⟨e | ⟨address, data⟩, a'⟩ <;> rw [hw] at works <;>
      exact works.congr (.refl a) rfl (.refl a')
  | jump =>
    have works := jump_works a
    unfold perform
    dsimp only
    rcases hw : a.jump with ⟨e | address, a'⟩ <;> rw [hw] at works <;>
      exact works.congr (.refl a) rfl (.refl a')

/-- An action is a conversation, whatever its file is. -/
theorem perform_converses (storage : Storage) (action : Action) (a : Access σ) :
    Converses (goesOn (a.perform storage action).1) (readingsOf (a.perform storage action).1) a
      (a.perform storage action).2 := by
  cases action with
  | writeFile path =>
    have converses := writeFile_converses storage path a
    unfold perform
    dsimp only
    rcases hw : a.writeFile storage path with ⟨e | w, a'⟩ <;> rw [hw] at converses <;> exact converses
  | writeValue i => exact (perform_works [] (by simp) a).converses
  | read length => exact (perform_works [] (by simp) a).converses
  | jump => exact (perform_works [] (by simp) a).converses

/-- What an entry tells of an attempt: whether the request goes on behind it, and what was read. -/
theorem Attempted.performed {storage : Storage} {action : Action} {entry : Entry}
    (h : Attempted storage action entry a a') :
    ∃ r b, a.perform storage action = (r, b) ∧ Same b a' ∧ goesOn r = entry.outcome.failure?.isNone ∧
      readingsOf r = entry.outcome.reading?.toList := by
  rcases h.outcome with ⟨performed, completes⟩ | ⟨e, b, performed, same, outcome⟩
  · have succeeds := Outcome.failure?_eq_none_iff.2 completes.succeeds.2
    exact ⟨_, a', performed, .refl a', by rw [succeeds]; rfl, rfl⟩
  · refine ⟨_, b, performed, same, ?_, ?_⟩ <;> rw [outcome] <;> cases hu : e.isUsage <;>
      simp [goesOn, Outcome.failure?, readingsOf, Except.toOption, Outcome.reading?, hu]

/-- Actions work through their plan, and the report is a success exactly when they got through. -/
theorem performAll_works {storage : Storage} {content : Bytes} {actions : List Action}
    (hf : ∀ path, .writeFile path ∈ actions → ∃ file, storage path = .ok file ∧ file.Holds content)
    (a : Access σ) :
    ∃ answers, Conversation (Action.plan a.chunkSize content actions a.cursor) answers
        (Report.mk (a.performAll storage actions).1).isSuccess a.wire (a.performAll storage actions).2.wire ∧
      Command.readings (Action.plan a.chunkSize content actions a.cursor) answers =
        (Report.mk (a.performAll storage actions).1).readings := by
  induction actions generalizing a with
  | nil => exact ⟨[], .done, rfl⟩
  | cons action rest ih =>
    rcases attempt : a.attempt storage action with ⟨entry, b⟩
    obtain ⟨r, a', performed, same, goes, reading⟩ := (attempted attempt).performed
    have first : ∀ path, action = .writeFile path → ∃ file, storage path = .ok file ∧ file.Holds content := by
      rintro path rfl
      exact hf path List.mem_cons_self
    have later : ∀ path, .writeFile path ∈ rest → ∃ file, storage path = .ok file ∧ file.Holds content := by
      intro path h
      exact hf path (List.mem_cons_of_mem _ h)
    have works := perform_works content first a
    rw [performed] at works
    obtain ⟨answers, conversation, reads⟩ := works.conversation
    rw [goes, same.wire] at conversation
    rw [performAll_cons rest attempt]
    unfold Action.plan
    split
    · rename_i succeeds
      obtain ⟨answers', conversation', reads'⟩ := ih later b
      have cursor := works.cursor (by simp [goes, succeeds])
      rw [← same.chunkSize, works.chunkSize, ← same.cursor, cursor] at conversation' reads'
      rw [succeeds] at conversation
      refine ⟨answers ++ answers', ?_, ?_⟩
      · rw [Report.isSuccess_cons succeeds]
        exact conversation.append conversation'
      · rw [Report.readings_cons, ← reading, conversation.readings_append, reads, reads']
    · rename_i fails
      rw [Option.isNone_eq_false_iff.2 (Option.isSome_iff_ne_none.2 fails)] at conversation
      refine ⟨answers, ?_, ?_⟩
      · rw [Report.isSuccess_cons_of_failure fails]
        exact conversation.extend _
      · rw [Report.readings_cons, ← reading, conversation.readings_extend, reads]
        exact (List.append_nil _).symm

/-- Actions are a conversation, which is through when the report is a success. -/
theorem performAll_converses (storage : Storage) (actions : List Action) (a : Access σ) :
    Converses (Report.mk (a.performAll storage actions).1).isSuccess
      (Report.mk (a.performAll storage actions).1).readings a (a.performAll storage actions).2 := by
  induction actions generalizing a with
  | nil => exact .refl _ a
  | cons action rest ih =>
    rcases attempt : a.attempt storage action with ⟨entry, b⟩
    obtain ⟨r, a', performed, same, goes, reading⟩ := (attempted attempt).performed
    have converses := perform_converses storage action a
    rw [performed, goes, reading] at converses
    have done := converses.congr (.refl a) same.symm
    rw [performAll_cons rest attempt]
    split
    · rename_i succeeds
      rw [Report.isSuccess_cons succeeds, Report.readings_cons]
      rw [succeeds] at done
      exact done.append (ih b)
    · rename_i fails
      rw [Report.isSuccess_cons_of_failure fails, Report.readings_cons]
      rw [Option.isNone_eq_false_iff.2 (Option.isSome_iff_ne_none.2 fails)] at done
      simpa [Report.readings] using done

end Memory.Access

namespace Connection

variable {σ : Type} [Port σ] {conn conn' : Connection σ} {setup : Setup}

/-- Once the connection is established, a run works through the plan of its set-up. -/
theorem run_works {storage : Storage} {content : Bytes} (hf : storage.Provides setup.request content)
    (h : conn.connect (.ofSkipWait setup.skipWait) = (.ok (), conn')) :
    ∃ report ended answers, conn.run storage setup = (.ok report, ended) ∧
      Conversation (setup.commands content) answers report.isSuccess conn'.line.wire ended.line.wire ∧
      Command.readings (setup.commands content) answers = report.readings := by
  obtain ⟨a, line, cursor, chunkSize, run⟩ := run_of_connect_ok storage h
  have files : ∀ path, .writeFile path ∈ setup.request.actions →
      ∃ file, storage path = .ok file ∧ file.Holds content := by
    intro path requested
    exact hf path (Request.writeFile_of_mem requested)
  obtain ⟨answers, conversation, reads⟩ := Access.performAll_works files a
  have start : a.wire = conn'.line.wire := by rw [Access.wire, line, Line.wire_note]
  rw [chunkSize, cursor, ← Setup.commands_eq_plan, start] at conversation
  rw [chunkSize, cursor, ← Setup.commands_eq_plan] at reads
  rw [run]
  exact ⟨_, _, answers, rfl, conversation, reads⟩

/-- Once the connection is established, a run is a conversation, whatever the files are. -/
theorem run_converses (storage : Storage)
    (h : conn.connect (.ofSkipWait setup.skipWait) = (.ok (), conn')) :
    ∃ report ended plan answers complete, conn.run storage setup = (.ok report, ended) ∧
      Conversation plan answers complete conn'.line.wire ended.line.wire ∧
      Command.readings plan answers = report.readings ∧ (report.isSuccess = true → complete = true) := by
  obtain ⟨a, line, -, -, run⟩ := run_of_connect_ok storage h
  obtain ⟨plan, answers, complete, conversation, reads, through⟩ :=
    Access.performAll_converses storage setup.request.actions a
  have start : a.wire = conn'.line.wire := by rw [Access.wire, line, Line.wire_note]
  rw [start] at conversation
  rw [run]
  exact ⟨_, _, plan, answers, complete, rfl, conversation, reads, through⟩

end Connection

end BootHost
