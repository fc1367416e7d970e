import BootHost.Port.Queued
import BootHost.Proofs.Conversation.Operations
import BootHost.Proofs.Greeting
import BootHost.Run

/-!
# How a request is dispatched

A request is performed action by action, and each action that is attempted adds one entry to the
report: `attempt` is that step, `Attempted` says all that its entry tells, and a request is a path of
such steps that ends with the first failure (`Dispatch`). `past` is the access behind the first few
actions; what an entry tells happened between two of these. So the entries are those of the actions
at the front of the request, and there are fewer only if the last one tells of a failure.
-/

namespace BootHost

open Memory

namespace Fault

theorem isUsage_iff {e : Fault} : e.isUsage = true ↔ e.kind = .usage := by
  simp [isUsage]

end Fault

namespace Outcome

/-- An outcome says that an operation of this kind was completed. -/
def Completes : Operation → Outcome → Prop
  | .writeFile, .written _ | .writeValue, .written _ | .read, .read .. | .jump, .jumped _ => True
  | _, _ => False

/-- An outcome is one that an operation of this kind may have. -/
def BelongsTo (operation : Operation) : Outcome → Prop
  | .skipped e => e.kind = .usage
  | .failed e => e.kind ≠ .usage
  | outcome => outcome.Completes operation

theorem failure?_eq_none_iff {o : Outcome} : o.failure? = none ↔ ∀ e, o ≠ .failed e := by
  cases o <;> simp [failure?]

theorem Completes.belongsTo {operation : Operation} {o : Outcome} (h : o.Completes operation) :
    o.BelongsTo operation := by
  cases o <;> cases operation <;> simp_all [Completes, BelongsTo]

theorem Completes.succeeds {operation : Operation} {o : Outcome} (h : o.Completes operation) :
    (∀ e, o ≠ .skipped e) ∧ ∀ e, o ≠ .failed e := by
  cases o <;> cases operation <;> simp_all [Completes]

end Outcome

namespace Request

/-- Whether a kind of operation is asked for. -/
def asksFor (r : Request) : Operation → Bool
  | .writeFile => r.writeFile.isSome
  | .writeValue => r.writeValue.isSome
  | .read => r.readLength.isSome
  | .jump => r.jump

/-- The operations that are asked for, in the order in which they run. -/
def operations (r : Request) : List Operation :=
  [Operation.writeFile, .writeValue, .read, .jump].filter r.asksFor

theorem operations_eq (r : Request) : r.actions.map Action.operation = r.operations := by
  obtain ⟨file, value, length, jump⟩ := r
  cases file <;> cases value <;> cases length <;> cases jump <;> rfl

end Request

/-- Nothing failed exactly when no entry tells of a failure. -/
theorem Report.exitCode_eq_zero_iff {r : Report} :
    r.exitCode = 0 ↔ ∀ entry ∈ r.entries, ∀ e, entry.outcome ≠ .failed e := by
  have none : r.isSuccess = true ↔ ∀ entry ∈ r.entries, ∀ e, entry.outcome ≠ .failed e := by
    simp only [isSuccess, failure?, Option.isNone_iff_eq_none, List.findSome?_eq_none_iff,
      Outcome.failure?_eq_none_iff]
  rw [← none, exitCode]
  split <;> simp_all

namespace Memory.Access

variable {σ : Type} [Port σ] {a a' : Access σ} {storage : Storage} {action : Action}
  {actions rest : List Action} {entry : Entry}

/-- An action that is performed brings the outcome of its own operation. -/
theorem completes_of_perform {outcome : Outcome} (h : a.perform storage action = (.ok outcome, a')) :
    outcome.Completes action.operation := by
  cases action <;> dsimp only [perform] at h <;> split at h <;>
    simp only [Prod.mk.injEq, Except.ok.injEq, reduceCtorEq, false_and] at h <;>
    exact h.1 ▸ True.intro

/-- Performs one action and tells what became of it. -/
def attempt (storage : Storage) (action : Action) (a : Access σ) : Entry × Access σ :=
  match a.perform storage action with
  | (.ok outcome, a') => (⟨action.operation, outcome⟩, a')
  | (.error e, a') =>
    if e.isUsage then (⟨action.operation, .skipped e⟩, a'.note (.skipped action.operation e))
    else (⟨action.operation, .failed e⟩, a'.note (.failed action.operation e))

/-- What an attempt tells. -/
structure Attempted (storage : Storage) (action : Action) (entry : Entry) (a a' : Access σ) : Prop where
  operation : entry.operation = action.operation
  outcome :
    (a.perform storage action = (.ok entry.outcome, a') ∧ entry.outcome.Completes action.operation) ∨
    ∃ e b, a.perform storage action = (.error e, b) ∧ Same b a' ∧
      entry.outcome = if e.isUsage then .skipped e else .failed e

theorem attempted (h : a.attempt storage action = (entry, a')) : Attempted storage action entry a a' := by
  unfold attempt at h
  split at h
  · rename_i outcome b performed
    obtain ⟨rfl, rfl⟩ := Prod.mk.inj h
    exact ⟨rfl, .inl ⟨performed, completes_of_perform performed⟩⟩
  · rename_i e b performed
    split at h <;> rename_i usage <;> obtain ⟨rfl, rfl⟩ := Prod.mk.inj h
    · exact ⟨rfl, .inr ⟨e, b, performed, same_note _ b, (if_pos usage).symm⟩⟩
    · exact ⟨rfl, .inr ⟨e, b, performed, same_note _ b, (if_neg usage).symm⟩⟩

/-- The outcome of an attempt is one of its own operation. -/
theorem Attempted.belongs (h : Attempted storage action entry a a') :
    entry.outcome.BelongsTo entry.operation := by
  rw [h.operation]
  rcases h.outcome with ⟨-, completes⟩ | ⟨e, b, -, -, outcome⟩
  · exact completes.belongsTo
  · rw [outcome]
    split
    · exact Fault.isUsage_iff.1 ‹_›
    · intro usage
      exact absurd (Fault.isUsage_iff.2 usage) ‹_›

theorem Attempted.of_skipped {e : Fault} (h : Attempted storage action entry a a')
    (skipped : entry.outcome = .skipped e) :
    ∃ b, a.perform storage action = (.error e, b) ∧ e.kind = .usage ∧ Same b a' := by
  rcases h.outcome with ⟨-, completes⟩ | ⟨e', b, performed, same, outcome⟩
  · exact absurd skipped (completes.succeeds.1 e)
  · rw [skipped] at outcome
    split at outcome
    · obtain rfl := Outcome.skipped.inj outcome
      exact ⟨b, performed, Fault.isUsage_iff.1 ‹_›, same⟩
    · cases outcome

theorem Attempted.of_failed {e : Fault} (h : Attempted storage action entry a a')
    (failed : entry.outcome = .failed e) :
    ∃ b, a.perform storage action = (.error e, b) ∧ e.kind ≠ .usage ∧ Same b a' := by
  have belongs := h.belongs
  rw [failed] at belongs
  rcases h.outcome with ⟨-, completes⟩ | ⟨e', b, performed, same, outcome⟩
  · exact absurd failed (completes.succeeds.2 e)
  · rw [failed] at outcome
    split at outcome
    · cases outcome
    · obtain rfl := Outcome.failed.inj outcome
      exact ⟨b, performed, belongs, same⟩

theorem Attempted.of_error {e : Fault} {b : Access σ} (h : Attempted storage action entry a a')
    (performed : a.perform storage action = (.error e, b)) :
    entry.outcome = if e.isUsage then .skipped e else .failed e := by
  rcases h.outcome with ⟨completed, -⟩ | ⟨e', b', performed', -, outcome⟩
  · simp [performed] at completed
  · obtain ⟨rfl, -⟩ : e = e' ∧ b = b' := by simpa [performed] using performed'
    exact outcome

/-- Behind an attempt comes the rest, unless it failed. -/
theorem performAll_cons (rest : List Action) (h : a.attempt storage action = (entry, a')) :
    a.performAll storage (action :: rest) =
      if entry.outcome.failure? = none then
        (entry :: (a'.performAll storage rest).1, (a'.performAll storage rest).2)
      else ([entry], a') := by
  obtain ⟨r, b, performed⟩ : ∃ r b, a.perform storage action = (r, b) := ⟨_, _, rfl⟩
  unfold attempt at h
  rw [performAll]
  rw [performed] at h ⊢
  cases r with
  | ok outcome =>
    obtain ⟨rfl, rfl⟩ := Prod.mk.inj h
    have succeeds := (completes_of_perform performed).succeeds.2
    rw [if_pos (Outcome.failure?_eq_none_iff.2 succeeds)]
  | error e =>
    dsimp only at h ⊢
    split at h <;> rename_i usage <;> obtain ⟨rfl, rfl⟩ := Prod.mk.inj h
    · rw [if_pos usage]
      rfl
    · rw [if_neg usage]
      rfl

/-- The access behind the first few actions, as far as they are performed. -/
def past (storage : Storage) (actions : List Action) (i : Nat) (a : Access σ) : Access σ :=
  (a.performAll storage (actions.take i)).2

theorem past_zero (a : Access σ) : a.past storage actions 0 = a := by
  rw [past, List.take_zero, performAll]

theorem past_succ (h : a.attempt storage action = (entry, a')) (goes : entry.outcome.failure? = none)
    (i : Nat) : a.past storage (action :: rest) (i + 1) = a'.past storage rest i := by
  rw [past, List.take_succ_cons, performAll_cons _ h, if_pos goes, past]

theorem past_one (h : a.attempt storage action = (entry, a')) :
    a.past storage (action :: rest) 1 = a' := by
  rw [past, List.take_succ_cons, List.take_zero, performAll_cons _ h]
  split
  · rw [performAll]
  · rfl

/-- A request goes through its actions, one attempt after the other, until one fails. -/
inductive Dispatch (storage : Storage) : List Action → List Entry → Access σ → Access σ → Prop where
  | done {a : Access σ} : Dispatch storage [] [] a a
  | goesOn {action : Action} {rest : List Action} {entry : Entry} {entries : List Entry}
      {a a' a'' : Access σ} :
      a.attempt storage action = (entry, a') → entry.outcome.failure? = none →
      Dispatch storage rest entries a' a'' → Dispatch storage (action :: rest) (entry :: entries) a a''
  | stops {action : Action} {rest : List Action} {entry : Entry} {a a' : Access σ} :
      a.attempt storage action = (entry, a') → entry.outcome.failure? ≠ none →
      Dispatch storage (action :: rest) [entry] a a'

theorem performAll_dispatch (storage : Storage) (actions : List Action) (a : Access σ) :
    Dispatch storage actions (a.performAll storage actions).1 a (a.performAll storage actions).2 := by
  -- the access goes along, since each attempt starts where the one before it ended
  induction actions generalizing a with
  | nil => exact .done
  | cons action rest ih =>
    rcases first : a.attempt storage action with ⟨entry, a'⟩
    rw [performAll_cons rest first]
    split
    · exact .goesOn first ‹_› (ih a')
    · exact .stops first ‹_›

variable {entries : List Entry}

/-- The entries are those of the actions at the front. -/
theorem Dispatch.inOrder (h : Dispatch storage actions entries a a') :
    entries.map Entry.operation <+: actions.map Action.operation := by
  induction h with
  | done => exact List.prefix_rfl
  | goesOn first _ _ ih =>
    rw [List.map_cons, List.map_cons, (attempted first).operation]
    exact (List.cons_prefix_cons).2 ⟨rfl, ih⟩
  | stops first _ =>
    rw [List.map_cons, List.map_cons, (attempted first).operation]
    exact (List.cons_prefix_cons).2 ⟨rfl, List.nil_prefix⟩

/-- Without a failure, every action has its entry. -/
theorem Dispatch.whole (h : Dispatch storage actions entries a a')
    (none : ∀ entry ∈ entries, ∀ e, entry.outcome ≠ .failed e) :
    entries.map Entry.operation = actions.map Action.operation := by
  induction h with
  | done => rfl
  | goesOn first _ _ ih =>
    have later := ih fun entry mem => none entry (List.mem_cons_of_mem _ mem)
    rw [List.map_cons, List.map_cons, (attempted first).operation, later]
  | stops _ fails => exact absurd (Outcome.failure?_eq_none_iff.2 (none _ List.mem_cons_self)) fails

/-- A failure is the last entry. -/
theorem Dispatch.last {i : Nat} {e : Fault} (h : Dispatch storage actions entries a a')
    (at_i : entries[i]? = some entry) (failed : entry.outcome = .failed e) : i + 1 = entries.length := by
  induction h generalizing i with
  | done => simp at at_i
  | goesOn _ goes _ ih =>
    cases i with
    | zero =>
      obtain rfl := Option.some.inj at_i
      exact absurd failed (Outcome.failure?_eq_none_iff.1 goes e)
    | succ i => rw [List.length_cons, ih at_i]
  | stops _ _ =>
    cases i with
    | zero => rfl
    | succ i => simp at at_i

/-- A request ends behind the actions that have entries. -/
theorem Dispatch.final (h : Dispatch storage actions entries a a') :
    a' = a.past storage actions entries.length := by
  induction h with
  | done => exact (past_zero _).symm
  | goesOn first goes _ ih => rw [List.length_cons, past_succ first goes, ← ih]
  | stops first _ => exact (past_one first).symm

/-- What an entry tells happened between two of the accesses that a request goes through. -/
theorem Dispatch.attempted {i : Nat} (h : Dispatch storage actions entries a a')
    (at_i : entries[i]? = some entry) :
    ∃ action, actions[i]? = some action ∧
      Attempted storage action entry (a.past storage actions i) (a.past storage actions (i + 1)) := by
  induction h generalizing i with
  | done => simp at at_i
  | @goesOn action rest _ _ _ _ _ first goes _ ih =>
    cases i with
    | zero =>
      obtain rfl := Option.some.inj at_i
      rw [past_zero, past_one first]
      exact ⟨action, rfl, Access.attempted first⟩
    | succ i =>
      rw [past_succ first goes, past_succ first goes]
      exact ih at_i
  | @stops action _ _ _ _ first _ =>
    cases i with
    | zero =>
      obtain rfl := Option.some.inj at_i
      rw [past_zero, past_one first]
      exact ⟨action, rfl, Access.attempted first⟩
    | succ i => simp at at_i

/-- The shape of the report on a request, and where the access ends. -/
structure Dispatched (storage : Storage) (request : Request) (a : Access σ) (report : Report)
    (a' : Access σ) : Prop where
  /-- The entries are those of the operations at the front of the request. -/
  inOrder : report.entries.map Entry.operation <+: request.operations
  /-- What is skipped was a usage fault, what failed was not, and the rest was completed. -/
  belongs : ∀ entry ∈ report.entries, entry.outcome.BelongsTo entry.operation
  /-- A failure is the last entry, and nothing is done behind it. -/
  failedLast : ∀ i entry e, report.entries[i]? = some entry → entry.outcome = .failed e →
    i + 1 = report.entries.length ∧
      ∃ action b, request.actions[i]? = some action ∧
        (a.past storage request.actions i).perform storage action = (.error e, b) ∧ Same b a'
  /-- Without a failure, every operation has its entry. -/
  whole : (∀ entry ∈ report.entries, ∀ e, entry.outcome ≠ .failed e) →
    report.entries.map Entry.operation = request.operations
  exitCode : report.exitCode = 0 ↔
    (∀ operation ∈ request.operations, ∃ entry ∈ report.entries, entry.operation = operation) ∧
      ∀ entry ∈ report.entries, ∀ e, entry.outcome ≠ .failed e

theorem Dispatch.dispatched {request : Request} (h : Dispatch storage request.actions entries a a') :
    Dispatched storage request a ⟨entries⟩ a' where
  inOrder := by
    rw [← request.operations_eq]
    exact h.inOrder
  belongs := by
    intro entry mem
    obtain ⟨i, at_i⟩ := List.getElem?_of_mem mem
    obtain ⟨action, -, attempted⟩ := h.attempted at_i
    exact attempted.belongs
  failedLast := by
    intro i entry e at_i failed
    obtain ⟨action, requested, attempted⟩ := h.attempted at_i
    obtain ⟨b, performed, -, same⟩ := attempted.of_failed failed
    have last := h.last at_i failed
    refine ⟨last, action, b, requested, performed, ?_⟩
    rw [h.final, ← last]
    exact same
  whole := by
    intro none
    rw [← request.operations_eq]
    exact h.whole none
  exitCode := by
    rw [Report.exitCode_eq_zero_iff]
    constructor
    · intro none
      refine ⟨?_, none⟩
      intro operation requested
      rw [← request.operations_eq, ← h.whole none] at requested
      exact List.mem_map.1 requested
    · rintro ⟨-, none⟩
      exact none

end Memory.Access

/-- A storage without files. -/
def noFiles : Storage := fun _ => .error .notFound

namespace Connection

variable {σ : Type} [Port σ] {conn conn' : Connection σ} {start : Start} {setup : Setup}

theorem idle_of_connect_ok (h : conn.connect start = (.ok (), conn')) : conn.phase = .idle := by
  rcases connect_cases h with ⟨idle, -, -⟩ | ⟨-, failed, -⟩
  · exact idle
  · cases failed

/-- A connection that is not idle stays as it is; one that fails has sent a part of the magic. -/
theorem connect_error_cases {e : Fault} (h : conn.connect start = (.error e, conn')) :
    (conn.phase ≠ .idle ∧ conn' = conn) ∨
      (conn'.phase = .failed ∧
        ∃ part, part <+: Protocol.magic ∧ conn'.line.traffic.taken = conn.line.traffic.taken ++ part) := by
  rcases connect_cases h with ⟨-, greeted, failed⟩ | ⟨busy, -, same⟩
  · right
    refine ⟨failed, ?_⟩
    obtain ⟨m, ⟨part, front, traffic⟩ | ⟨n, traffic⟩⟩ := Line.traffic_of_greet_error greeted
    · refine ⟨part, front, ?_⟩
      rw [traffic, Traffic.taken_take, Traffic.taken_deliver]
    · refine ⟨Protocol.magic, List.prefix_rfl, ?_⟩
      rw [traffic, Traffic.taken_deliver, Traffic.taken_flush, Traffic.taken_take, Traffic.taken_deliver]
  · exact .inl ⟨busy, same⟩

/-- Every request is dispatched action by action, over every port. A run brings no report exactly
when it did not establish the connection itself, and then it has sent some of the magic at most. -/
theorem run_dispatches (storage : Storage) (setup : Setup) (conn : Connection σ) :
    (∀ (request : Request) (a : Memory.Access σ), Memory.Access.Dispatched storage request a
      (a.fulfil storage request).1 (a.fulfil storage request).2) ∧
    ((∃ e, (conn.run storage setup).1 = .error e) ↔
      ¬(conn.phase = .idle ∧ (conn.run storage setup).2.phase = .established)) ∧
    ∀ e, (conn.run storage setup).1 = .error e →
      ∃ part, part <+: Protocol.magic ∧
        (conn.run storage setup).2.line.traffic.taken = conn.line.traffic.taken ++ part := by
  refine ⟨?_, ?_⟩
  · intro request a
    exact (Memory.Access.performAll_dispatch storage request.actions a).dispatched
  · rcases hc : conn.connect (.ofSkipWait setup.skipWait) with ⟨e | _, conn'⟩
    · rw [run_of_connect_error hc]
      rcases connect_error_cases hc with ⟨busy, rfl⟩ | ⟨failed, part, front, taken⟩
      · constructor
        · simp [busy]
        · intro _ _
          exact ⟨[], List.nil_prefix, (List.append_nil _).symm⟩
      · constructor
        · simp [failed]
        · intro _ _
          exact ⟨part, front, taken⟩
    · obtain ⟨a, -, -, -, run⟩ := run_of_connect_ok storage hc
      rcases ended : a.fulfil storage setup.request with ⟨report, a'⟩
      have idle := idle_of_connect_ok hc
      have established := (a'.note (.cursorEnded a'.cursor)).established
      rw [run, ended]
      constructor
      · simpa [idle] using established
      · simp

/-- An access behind the last address. -/
def exhausted : Memory.Access Queued where
  conn := { line := { port := { incoming := ([] : Bytes) } }, phase := .established }
  established := rfl
  cursor := none

/-- Behind the last address a read and a jump are skipped, which is a success; and a connection that
is established already is not established again. -/
theorem run_dispatches_behind_top :
    (∀ entry ∈ (exhausted.fulfil noFiles { readLength := some 4, jump := true }).1.entries,
      entry.outcome = .skipped .endOfAddressSpace) ∧
    (exhausted.fulfil noFiles { readLength := some 4, jump := true }).1.entries.map Entry.operation =
      [.read, .jump] ∧
    (exhausted.fulfil noFiles { readLength := some 4, jump := true }).1.exitCode = 0 ∧
    ∃ e, (exhausted.conn.run noFiles {}).1 = .error e := by
  obtain ⟨dispatches, fails, -⟩ := run_dispatches noFiles {} exhausted.conn
  have report := dispatches { readLength := some 4, jump := true } exhausted
  have skipped : ∀ entry ∈ (exhausted.fulfil noFiles { readLength := some 4, jump := true }).1.entries,
      entry.outcome = .skipped .endOfAddressSpace := by
    intro entry mem
    have two : entry ∈ [Entry.mk .read (.skipped .endOfAddressSpace),
      ⟨.jump, .skipped .endOfAddressSpace⟩] := mem
    simp only [List.mem_cons, List.not_mem_nil, or_false] at two
    rcases two with rfl | rfl <;> rfl
  have none : ∀ entry ∈ (exhausted.fulfil noFiles { readLength := some 4, jump := true }).1.entries,
      ∀ e, entry.outcome ≠ .failed e := by
    intro entry mem e failed
    rw [skipped entry mem] at failed
    cases failed
  have whole := report.whole none
  refine ⟨skipped, whole, ?_, fails.2 (by simp [exhausted])⟩
  rw [report.exitCode]
  refine ⟨?_, none⟩
  intro operation requested
  rw [← whole] at requested
  exact List.mem_map.1 requested

end Connection

end BootHost
