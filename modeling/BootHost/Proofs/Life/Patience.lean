import BootHost.Port.Scripted
import BootHost.Proofs.Life
import BootHost.Proofs.Session.Lifting
import BootHost.Proofs.Transfer.Calls

/-!
# Patience

A call on the port that timed out or was interrupted has not failed, and whoever made it is to make it
again. The reads and the writes of a transfer are made again. The flush behind the writes is not: its fault
is passed on as it is, when all the bytes have been taken already (`Wire.HeldUp`). This is the only way in
which a passing fault gets out of a transfer, a greeting, a call or a run (`Wire.Patient`), and so none
gets out over a port whose flush never times out (`WaitsOut`).
-/

namespace BootHost

open Memory

variable {σ : Type} [Port σ]

namespace Port

/-- Any calls on a port, one after the other. -/
inductive Calls : σ → σ → Prop where
  | nil {s : σ} : Calls s s
  | read {n : Nat} {s s' s'' : σ} {r : Except DeviceFault Bytes} : Port.read n s = (r, s') →
      Calls s' s'' → Calls s s''
  | write {bytes : Bytes} {s s' s'' : σ} {r : Except DeviceFault Nat} : Port.write bytes s = (r, s') →
      Calls s' s'' → Calls s s''
  | flush {s s' s'' : σ} {r : Except DeviceFault Unit} : Port.flush s = (r, s') → Calls s' s'' → Calls s s''

variable {s s' s'' : σ} {part rest : Bytes} {missing : Nat}

theorem Calls.append (h : Calls s s') (h' : Calls s' s'') : Calls s s'' := by
  induction h with
  | nil => exact h'
  | read call _ ih => exact .read call (ih h')
  | write call _ ih => exact .write call (ih h')
  | flush call _ ih => exact .flush call (ih h')

theorem Offers.calls (h : Offers part rest s s') : Calls s s' := by
  induction h with
  | nil => exact .nil
  | took _ call _ ih => exact .write call ih
  | again _ call _ _ ih => exact .write call ih

theorem Asks.calls (h : Asks part missing s s') : Calls s s' := by
  induction h with
  | nil => exact .nil
  | brought _ call _ ih => exact .read call ih
  | again _ call _ _ ih => exact .read call ih

end Port

/-- What the host sends in one piece. -/
inductive Sendable : Bytes → Prop where
  | magic : Sendable Protocol.magic
  | frame (c : Command) : Sendable c.encode

namespace Wire

/-- All of some bytes was taken, but it could not be pushed out yet. -/
def HeldUp (bytes : Bytes) (cause : DeviceFault) (w w' : Wire σ) : Prop :=
  ∃ s, Port.Offers bytes [] w.port s ∧ Port.flush s = (.error cause, w'.port) ∧
    w'.traffic = w.traffic.take bytes

/-- Something is heard over some calls, and it is not given up for a fault that passes. -/
structure Listens {α : Type} (r : Except DeviceFault α) (w w' : Wire σ) : Prop where
  calls : Port.Calls w.port w'.port
  lasting {e : DeviceFault} : r = .error e → e.isTransient = false

/-- What happens between two wires is calls on the port, and if a passing fault came of it, the last thing
was that a piece was held up. -/
structure Patient (x : Option Fault) (w w' : Wire σ) : Prop where
  calls : Port.Calls w.port w'.port
  heldUp {cause : DeviceFault} : x = some (.transport cause) → cause.isTransient = true →
    ∃ (v : Wire σ) (bytes : Bytes), Port.Calls w.port v.port ∧ Sendable bytes ∧ v.HeldUp bytes cause w'

variable {w w' w'' : Wire σ} {bytes : Bytes} {x : Option Fault}

/-- The flush that held up some bytes is one of the calls on the port. -/
theorem HeldUp.lasting {port : σ} {cause : DeviceFault} (held : w.HeldUp bytes cause w')
    (calls : Port.Calls port w.port)
    (flushes : ∀ s s' e, Port.Calls port s → Port.flush s = (.error e, s') → e.isTransient = false) :
    cause.isTransient = false := by
  obtain ⟨s, offers, flushed, -⟩ := held
  exact flushes s _ cause (calls.append offers.calls) flushed

theorem SendCalls.calls {r : Except DeviceFault Unit} (h : SendCalls bytes w r w') :
    Port.Calls w.port w'.port := by
  cases h with
  | intro offers ends =>
    apply offers.calls.append
    cases ends with
    | flushed call | unflushed call => exact .flush call .nil
    | stopped _ call | broken _ call _ => exact .write call .nil

theorem ReceiveCalls.listens {count : Nat} {r : Except DeviceFault Bytes} (h : ReceiveCalls count w r w') :
    Listens r w w' := by
  cases h with
  | intro asks ends =>
    cases ends with
    | complete => exact ⟨asks.calls, nofun⟩
    | closed _ call => exact ⟨asks.calls.append (.read call .nil), fun same => Except.error.inj same ▸ rfl⟩
    | broken _ call final =>
      exact ⟨asks.calls.append (.read call .nil), fun same => Except.error.inj same ▸ final⟩

namespace Listens

variable {α β : Type} {r : Except DeviceFault α} {r' : Except DeviceFault β}

/-- What is heard may be followed by more that is heard. -/
theorem append (h : Listens r w w') (h' : Listens r' w' w'') : Listens r' w w'' :=
  ⟨h.calls.append h'.calls, h'.lasting⟩

/-- What is made of what was heard. -/
theorem turn (h : Listens r w w') (same : ∀ e, r' = .error e → r = .error e ∨ e.isTransient = false) :
    Listens r' w w' := by
  refine ⟨h.calls, ?_⟩
  intro e failed
  rcases same e failed with failed | lasting
  · exact h.lasting failed
  · exact lasting

end Listens

namespace Patient

/-- Calls that no line failure came of. -/
theorem of_calls (calls : Port.Calls w.port w'.port) (online : x.any Fault.isLineFailure = false) :
    Patient x w w' := by
  refine ⟨calls, ?_⟩
  rintro cause rfl
  cases online

theorem of_listens {α : Type} {e : DeviceFault} (h : Listens (.error e : Except DeviceFault α) w w') :
    Patient (some (.transport e)) w w' := by
  refine ⟨h.calls, ?_⟩
  rintro cause same transient
  obtain rfl : e = cause := Fault.transport.inj (Option.some.inj same)
  rw [h.lasting rfl] at transient
  cases transient

theorem append (h : Port.Calls w.port w'.port) (h' : Patient x w' w'') : Patient x w w'' := by
  refine ⟨h.append h'.calls, ?_⟩
  intro cause told transient
  obtain ⟨v, bytes, calls, sendable, held⟩ := h'.heldUp told transient
  exact ⟨v, bytes, h.append calls, sendable, held⟩

end Patient

end Wire

namespace Line

variable {l l' : Line σ} {bytes : Bytes} {e : DeviceFault}

theorem calls_of_send {r : Except DeviceFault Unit} (h : l.send bytes = (r, l')) :
    Port.Calls l.wire.port l'.wire.port := by
  have calls := (send_calls bytes l).calls
  rwa [h] at calls

/-- A send whose flush fails behind writes that took all the bytes. -/
theorem sendCalls_of_unflushed {s s' : σ} (offers : Port.Offers bytes [] l.port s)
    (call : Port.flush s = (.error e, s')) :
    l.wire.SendCalls bytes (.error e) ⟨s', l.traffic.take bytes⟩ := by
  have calls : l.wire.SendCalls (bytes ++ []) (.error e) ⟨s', l.traffic.take bytes⟩ :=
    .intro offers (.unflushed call)
  rwa [List.append_nil] at calls

/-- A send fails with a passing fault exactly when the flush does behind writes that took all the bytes. -/
theorem send_transient_iff (transient : e.isTransient = true) :
    (l.send bytes).1 = .error e ↔
      ∃ s s', Port.Offers bytes [] l.port s ∧ Port.flush s = (.error e, s') := by
  constructor
  · intro failed
    have calls := send_calls bytes l
    rw [failed] at calls
    generalize (l.send bytes).2.wire = w at calls
    cases calls with
    | intro offers ends =>
      cases ends with
      | unflushed call => exact ⟨_, _, by rwa [List.append_nil], call⟩
      -- a port that takes nothing more is no fault that passes
      | stopped _ _ => cases transient
      | broken _ _ lasting =>
        rw [transient] at lasting
        cases lasting
  · rintro ⟨s, s', offers, call⟩
    exact (sendCalls_iff.1 (sendCalls_of_unflushed offers call)).1

theorem heldUp_of_send (transient : e.isTransient = true) (h : l.send bytes = (.error e, l')) :
    l.wire.HeldUp bytes e l'.wire := by
  obtain ⟨s, s', offers, call⟩ := (send_transient_iff transient).1 (congrArg Prod.fst h)
  have ended := (sendCalls_iff.1 (sendCalls_of_unflushed offers call)).2
  rw [h] at ended
  rw [ended]
  exact ⟨s, offers, call, rfl⟩

theorem patient_of_send_error (sendable : Sendable bytes) (h : l.send bytes = (.error e, l')) :
    Wire.Patient (some (.transport e)) l.wire l'.wire := by
  refine ⟨calls_of_send h, ?_⟩
  intro cause same transient
  obtain rfl : e = cause := Fault.transport.inj (Option.some.inj same)
  exact ⟨l.wire, bytes, .nil, sendable, heldUp_of_send transient h⟩

theorem listens_of_receive {count : Nat} {r : Except DeviceFault Bytes} (h : l.receive count = (r, l')) :
    Wire.Listens r l.wire l'.wire :=
  (receiveCalls_iff.2 ⟨congrArg Prod.fst h, congrArg (·.2.wire) h⟩).listens

theorem listens_of_receiveByte {r : Except DeviceFault UInt8} (h : l.receiveByte = (r, l')) :
    Wire.Listens r l.wire l'.wire := by
  unfold receiveByte at h
  split at h <;> rename_i heard <;> obtain ⟨rfl, rfl⟩ := Prod.mk.inj h <;>
    apply (listens_of_receive heard).turn
  · exact nofun
  · exact fun e same => .inr (Except.error.inj same ▸ rfl)
  · exact fun e same => .inl (Except.error.inj same ▸ rfl)

theorem listens_of_awaitReady {dropped : Nat} {r : Except DeviceFault Nat}
    (h : l.awaitReady dropped = (r, l')) : Wire.Listens r l.wire l'.wire := by
  fun_induction awaitReady dropped l with
  | case1 dropped l l₁ heard =>
    obtain ⟨rfl, rfl⟩ := Prod.mk.inj h
    exact (listens_of_receiveByte heard).turn (by rintro _ ⟨⟩)
  | case2 dropped l b l₁ heard _ ih => exact (listens_of_receiveByte heard).append (ih h)
  | case3 dropped l e l₁ heard =>
    obtain ⟨rfl, rfl⟩ := Prod.mk.inj h
    exact (listens_of_receiveByte heard).turn fun e same => .inl (Except.error.inj same ▸ rfl)

theorem listens_of_awaitAnswer {skipped : Nat} {r : Except DeviceFault (UInt8 × Nat)}
    (h : l.awaitAnswer skipped = (r, l')) : Wire.Listens r l.wire l'.wire := by
  fun_induction awaitAnswer skipped l with
  | case1 skipped l l₁ heard ih => exact (listens_of_receiveByte heard).append (ih h)
  | case2 skipped l b l₁ heard _ =>
    obtain ⟨rfl, rfl⟩ := Prod.mk.inj h
    exact (listens_of_receiveByte heard).turn (by rintro _ ⟨⟩)
  | case3 skipped l e l₁ heard =>
    obtain ⟨rfl, rfl⟩ := Prod.mk.inj h
    exact (listens_of_receiveByte heard).turn fun e same => .inl (Except.error.inj same ▸ rfl)

theorem calls_of_issue {c : Command} (h : l.issue c = (.ok (), l')) :
    Port.Calls l.wire.port l'.wire.port := by
  obtain ⟨k, same, sent⟩ := send_of_issue_ok h
  rw [← same]
  exact calls_of_send sent

theorem patient_of_issue_error {c : Command} {e : Fault} (h : l.issue c = (.error e, l')) :
    Wire.Patient (some e) l.wire l'.wire := by
  obtain ⟨k, cause, same, sent, rfl⟩ := send_of_issue_error h
  rw [← same]
  exact patient_of_send_error (.frame c) sent

/-- An exchange is patient: the command goes out, and what is heard behind it is waited for. -/
theorem patient_of_command {c : Command} {stage : Stage} {r : Except Fault Unit}
    (h : l.command c stage = (r, l')) : Wire.Patient (fault? r) l.wire l'.wire := by
  unfold command at h
  split at h
  · rename_i unsent
    obtain ⟨rfl, rfl⟩ := Prod.mk.inj h
    exact patient_of_issue_error unsent
  · rename_i issued
    apply Wire.Patient.append (calls_of_issue issued)
    unfold awaitAck at h
    split at h <;> rename_i heard
    · obtain ⟨rfl, rfl⟩ := Prod.mk.inj h
      exact .of_listens (listens_of_receiveByte heard)
    · have calls := (listens_of_receiveByte heard).calls
      split at h <;> obtain ⟨rfl, rfl⟩ := Prod.mk.inj h <;> exact .of_calls calls rfl

theorem patient_of_fetch {length : UInt32} {address : UInt64} {r : Except Fault Bytes}
    (h : l.fetch length address = (r, l')) : Wire.Patient (fault? r) l.wire l'.wire := by
  unfold fetch at h
  split at h
  · rename_i unsent
    obtain ⟨rfl, rfl⟩ := Prod.mk.inj h
    exact patient_of_issue_error unsent
  · rename_i issued
    apply Wire.Patient.append (calls_of_issue issued)
    split at h <;> rename_i heard <;> obtain ⟨rfl, rfl⟩ := Prod.mk.inj h
    · exact .of_listens (listens_of_receive heard)
    · have calls := (listens_of_receive heard).calls
      exact .of_calls calls rfl

end Line

namespace Wire

variable {w w' : Wire σ} {start : Start}

/-- Patience goes over from exchanges to calls. -/
theorem lifts_patient : Lifts fun x (w w' : Wire σ) => Patient x w w' where
  nothing online := .of_calls .nil online
  append first later := .append first.calls later
  skipped _ h := .of_calls h.calls rfl
  command h := Line.patient_of_command h
  fetch h := Line.patient_of_fetch h

theorem Waits.calls (h : w.Waits start w') : Port.Calls w.port w'.port := by
  cases h with
  | awake => exact .nil
  | found found => exact (Line.listens_of_awaitReady found).calls

theorem Greets.patient (h : w.Greets start w') : Patient none w w' := by
  cases h with
  | intro waits sent heard =>
    have answered := (Line.listens_of_awaitAnswer heard).calls
    exact .of_calls (waits.calls.append ((Line.calls_of_send sent).append answered)) rfl

theorem Rebuffs.patient {e : Fault} (h : w.Rebuffs start e w') : Patient (some e) w w' := by
  cases h with
  | unready _ lost => exact .of_listens (Line.listens_of_awaitReady lost)
  | unsent waits unsent => exact .append waits.calls (Line.patient_of_send_error .magic unsent)
  | unheard waits sent lost =>
    apply Patient.append (waits.calls.append (Line.calls_of_send sent))
    exact .of_listens (Line.listens_of_awaitAnswer lost)
  | refused waits sent heard _ =>
    have answered := (Line.listens_of_awaitAnswer heard).calls
    exact .of_calls (waits.calls.append ((Line.calls_of_send sent).append answered)) rfl

end Wire

/-- A greeting is patient, whatever comes of it. -/
theorem Line.patient_of_greet {start : Start} {r : Except Fault Unit} {l l' : Line σ}
    (h : l.greet start = (r, l')) : Wire.Patient (fault? r) l.wire l'.wire := by
  cases r with
  | ok _ => exact (greets_of_greet_ok h).patient
  | error e => exact (rebuffs_of_greet_error h).patient

namespace Connection

variable {conn conn' : Connection σ}

theorem patient_of_connect {start : Start} {r : Except Fault Unit} (h : conn.connect start = (r, conn')) :
    Wire.Patient (fault? r) conn.line.wire conn'.line.wire :=
  Wire.lifts_patient.connect Line.patient_of_greet h

/-- A run is patient, told the fault that it tells. -/
theorem patient_of_run (storage : Storage) (setup : Setup) (conn : Connection σ) :
    Wire.Patient (told (conn.run storage setup).1) conn.line.wire
      (conn.run storage setup).2.line.wire :=
  Wire.lifts_patient.run Line.patient_of_greet storage setup conn

end Connection

namespace Held

/-- The fault that an act tells, be it in a report. -/
def told : Except Fault Reply → Option Fault
  | .error e => some e
  | .ok (.report report) => report.failure?
  | .ok _ => none

/-- An act is patient, told the fault that it tells. -/
theorem patient_of_act (act : Act) (h : Held σ) :
    Wire.Patient (told (h.act act).1) h.conn.line.wire (h.act act).2.conn.line.wire := by
  have still {x : Option Fault} (online : x.any Fault.isLineFailure = false) :
      Wire.Patient x h.conn.line.wire h.conn.line.wire := .of_calls .nil online
  cases act with
  | connect start =>
    rcases hc : h.conn.connect start with ⟨r, conn'⟩
    have greeting := Connection.patient_of_connect hc
    dsimp only [act]
    rw [hc]
    cases r <;> exact greeting
  | openAt address chunkSize =>
    by_cases established : h.conn.phase = .established
    · obtain ⟨a, opened, same⟩ := act_openAt_of_established established address chunkSize
      rw [opened]
      dsimp only [conn]
      rw [same]
      exact still rfl
    · rw [act_openAt_of_not_established established]
      exact still rfl
  | call c =>
    cases h with
    | free conn => exact still rfl
    | through a =>
      rcases called : a.call c with ⟨r, a'⟩
      have call := Wire.lifts_patient.call called
      dsimp only [act]
      rw [called]
      cases r <;> exact call
  | fulfil storage request =>
    cases h with
    | free conn => exact still rfl
    | through a => exact Wire.lifts_patient.performAll storage request.actions a

theorem calls_of_after (acts : List Act) (h : Held σ) :
    Port.Calls h.conn.line.port (h.after acts).conn.line.port := by
  induction acts generalizing h with
  | nil => exact .nil
  | cons act rest ih => exact (patient_of_act act h).calls.append (ih (h.act act).2)

/-- What a passing fault of a port comes to, for whoever uses it. -/
structure WaitsOut (port : σ) : Prop where
  /-- A receive waits until it has passed. -/
  receive (l : Line σ) (count : Nat) {e : DeviceFault} :
    (l.receive count).1 = .error e → e.isTransient = false
  receiveByte (l : Line σ) {e : DeviceFault} : l.receiveByte.1 = .error e → e.isTransient = false
  /-- So does a send, until all its bytes are taken. It fails with the one that the flush meets then. -/
  send (l : Line σ) (bytes : Bytes) {e : DeviceFault} : e.isTransient = true →
    ((l.send bytes).1 = .error e ↔ ∃ s s', Port.Offers bytes [] l.port s ∧ Port.flush s = (.error e, s'))
  /-- An act that tells of one, behind any others, was given up by a flush like that. -/
  act (acts : List Act) (act : Act) {cause : DeviceFault} : cause.isTransient = true →
    told (((free (.ofPort port)).after acts).act act).1 = some (.transport cause) →
    ∃ (v : Wire σ) (bytes : Bytes), Port.Calls port v.port ∧ Sendable bytes ∧
      v.HeldUp bytes cause (((free (.ofPort port)).after acts).act act).2.conn.line.wire
  /-- So was a run. -/
  run (storage : Storage) (setup : Setup) {cause : DeviceFault} : cause.isTransient = true →
    Connection.told ((Connection.ofPort port).run storage setup).1 = some (.transport cause) →
    ∃ (v : Wire σ) (bytes : Bytes), Port.Calls port v.port ∧ Sendable bytes ∧
      v.HeldUp bytes cause ((Connection.ofPort port).run storage setup).2.line.wire
  /-- Where no flush meets one, no act and no run tells of one. -/
  patient : (∀ s s' e, Port.Calls port s → Port.flush s = (.error e, s') → e.isTransient = false) →
    (∀ acts act cause, told (((free (.ofPort port)).after acts).act act).1 = some (.transport cause) →
      cause.isTransient = false) ∧
    ∀ storage setup cause,
      Connection.told ((Connection.ofPort port).run storage setup).1 = some (.transport cause) →
      cause.isTransient = false

/-- A fault that passes is waited for by every call but the flush at the end of a send. -/
theorem only_flush_gives_up (port : σ) : WaitsOut port := by
  have acted (acts : List Act) (act : Act) {cause : DeviceFault} (transient : cause.isTransient = true)
      (tells : told (((free (.ofPort port)).after acts).act act).1 = some (.transport cause)) :
      ∃ (v : Wire σ) (bytes : Bytes), Port.Calls port v.port ∧ Sendable bytes ∧
        v.HeldUp bytes cause (((free (.ofPort port)).after acts).act act).2.conn.line.wire := by
    obtain ⟨v, bytes, calls, sendable, held⟩ := (patient_of_act act _).heldUp tells transient
    have before := calls_of_after acts (free (.ofPort port))
    exact ⟨v, bytes, before.append calls, sendable, held⟩
  have ran (storage : Storage) (setup : Setup) {cause : DeviceFault} (transient : cause.isTransient = true)
      (tells : Connection.told ((Connection.ofPort port).run storage setup).1 = some (.transport cause)) :
      ∃ (v : Wire σ) (bytes : Bytes), Port.Calls port v.port ∧ Sendable bytes ∧
        v.HeldUp bytes cause ((Connection.ofPort port).run storage setup).2.line.wire :=
    (Connection.patient_of_run storage setup (.ofPort port)).heldUp tells transient
  constructor
  case receive =>
    intro l count e failed
    exact (Line.listens_of_receive (Prod.eta _).symm).lasting failed
  case receiveByte =>
    intro l e failed
    exact (Line.listens_of_receiveByte (Prod.eta _).symm).lasting failed
  case send =>
    intro l bytes e transient
    exact Line.send_transient_iff transient
  case act => exact acted
  case run => exact ran
  case patient =>
    intro flushes
    constructor
    · intro acts act cause tells
      by_contra passing
      obtain ⟨v, bytes, calls, -, held⟩ := acted acts act (eq_true_of_ne_false passing) tells
      exact passing (held.lasting calls flushes)
    · intro storage setup cause tells
      by_contra passing
      obtain ⟨v, bytes, calls, -, held⟩ := ran storage setup (eq_true_of_ne_false passing) tells
      exact passing (held.lasting calls flushes)

/-- A line on which the second flush times out. The board acknowledges all that it is sent. -/
def unhurried : Scripted where
  reads := [.data [Protocol.ack, Protocol.ack]]
  flushes := [.ok (), .error (.plain .timedOut)]

/-- A jump from the address zero, of a board that is awake. -/
def jumpRequest : Setup := { skipWait := true, request := { jump := true } }

/-- The jump goes out whole, its flush times out, and the run has failed, though the acknowledgment is
there to be read. A send does the same by itself. -/
theorem slow_flush_fails_run :
    Connection.told ((Connection.ofPort unhurried).run noFiles jumpRequest).1 =
        some (.transport (.plain .timedOut)) ∧
      ((Connection.ofPort unhurried).run noFiles jumpRequest).2.line.traffic.taken =
        Protocol.magic ++ (Command.jumpTo 0).encode ∧
      ((Connection.ofPort unhurried).run noFiles jumpRequest).2.line.port.reads = [.data [Protocol.ack]] ∧
      (Line.send [0x4A] ⟨{ unhurried with flushes := [.error (.plain .interrupted)] }, {}, []⟩).1 =
        .error (.plain .interrupted) := by
  refine ⟨by decide +kernel, by decide +kernel, by decide +kernel, by decide +kernel⟩

end Held

end BootHost
