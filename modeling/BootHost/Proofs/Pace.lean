import BootHost.Port.Observed
import BootHost.Proofs.Greeting
import BootHost.Proofs.Mirror
import BootHost.Proofs.Session.Lifting

/-!
# The pace of a run

How far each call on the port gets the host. A call gets it on that moves some bytes, that uses up a fault which
passes, or that pushes out what was taken; the first one that does none of these is the last one that is made. On
an observed port, which keeps account of the calls, the transfers make calls that get the host on, and one more at
most, and so do the greeting, the exchanges and a whole run (`Connection.paced_of_run`). As each of these calls
lowers what is left of the port or moves towards the end of what there is to send, there is a bound on their
number.
-/

namespace BootHost

open Memory

variable {σ : Type} [Port σ]

namespace Port.Call

/-- The call gets the host on. -/
inductive Advances : Call → σ → Prop where
  | brings {count : Nat} {bytes : Bytes} {s : σ} : bytes ≠ [] → (Port.read count s).1 = .ok bytes →
      Advances (.read count) s
  | readsAgain {count : Nat} {e : DeviceFault} {s : σ} : e.isTransient = true →
      (Port.read count s).1 = .error e → Advances (.read count) s
  | takes {bytes : Bytes} {k : Nat} {s : σ} : (Port.write bytes s).1 = .ok (k + 1) → Advances (.write bytes) s
  | writesAgain {bytes : Bytes} {e : DeviceFault} {s : σ} : e.isTransient = true →
      (Port.write bytes s).1 = .error e → Advances (.write bytes) s
  | flushes {s : σ} : (Port.flush s).1 = .ok () → Advances .flush s

/-- The call asks for something, and does not get the host on. -/
def Stops (c : Call) (s : σ) : Prop := c ≠ .read 0 ∧ c ≠ .write [] ∧ ¬ c.Advances s

end Port.Call

namespace Port

/-- Calls on a port, one after the other, each of which goes on. -/
inductive Goes (goes : Call → σ → Prop) : List Call → σ → σ → Prop where
  | nil {s : σ} : Goes goes [] s s
  | cons {c : Call} {calls : List Call} {s s' : σ} : goes c s → Goes goes calls (c.next s) s' →
      Goes goes (c :: calls) s s'

/-- Calls on a port, of which only the last one may halt. -/
inductive Trail (goes halts : Call → σ → Prop) : List Call → σ → σ → Prop where
  | whole {calls : List Call} {s s' : σ} : Goes goes calls s s' → Trail goes halts calls s s'
  | cut {c : Call} {calls : List Call} {s s' : σ} : Goes goes calls s s' → halts c s' →
      Trail goes halts (calls ++ [c]) s (c.next s')

variable {goes goes' halts halts' : Call → σ → Prop} {calls : List Call} {s s' : σ}

theorem Goes.imp (h : Goes goes calls s s') (more : ∀ c s, goes c s → goes' c s) : Goes goes' calls s s' := by
  induction h with
  | nil => exact .nil
  | cons first _ ih => exact .cons (more _ _ first) ih

theorem Trail.imp (h : Trail goes halts calls s s') (more : ∀ c s, goes c s → goes' c s)
    (last : ∀ c s, halts c s → halts' c s) : Trail goes' halts' calls s s' := by
  cases h with
  | whole going => exact .whole (going.imp more)
  | cut going halt => exact .cut (going.imp more) (last _ _ halt)

end Port

namespace Observed

/-- An observed port after calls that get the host on. -/
inductive Gets : List Port.Call → Observed σ → Observed σ → Prop where
  | nil {o : Observed σ} : Gets [] o o
  | cons {c : Port.Call} {calls : List Port.Call} {o o' : Observed σ} : c.Advances o.port →
      Gets calls (o.make c) o' → Gets (c :: calls) o o'

variable {o o' o'' : Observed σ} {calls calls' : List Port.Call} {part rest : Bytes} {missing : Nat}

theorem Gets.append (h : Gets calls o o') (h' : Gets calls' o' o'') : Gets (calls ++ calls') o o'' := by
  induction h with
  | nil => exact h'
  | cons advances _ ih => exact .cons advances (ih h')

theorem Gets.goes (h : Gets calls o o') : Port.Goes Port.Call.Advances calls o.port o'.port := by
  induction h with
  | nil => exact .nil
  | cons advances _ ih => exact .cons advances ih

theorem Gets.made (h : Gets calls o o') : o'.made = o.made ++ calls := by
  induction h with
  | nil => exact (List.append_nil _).symm
  | cons _ _ ih =>
    rw [ih, made_make, List.append_assoc]
    rfl

/-- The writes of a send either take bytes or use up some of the port. -/
theorem gets_of_offers (h : Port.Offers part rest o o') :
    ∃ calls, Gets calls o o' ∧ calls.length + Port.budget o' ≤ Port.budget o + part.length := by
  induction h with
  | nil => exact ⟨[], .nil, by simp⟩
  | @took first part rest o o₁ o₂ nonempty call _ ih =>
    obtain ⟨calls, gets, few⟩ := ih
    obtain ⟨result, rfl⟩ := Prod.mk.inj call
    -- The port need not be lower for a write that takes something: the bytes that it takes pay for it.
    obtain ⟨k, length⟩ := Nat.exists_eq_add_one.2 (List.length_pos_iff.2 nonempty)
    have lower : Port.budget (o.make (.write (first ++ part ++ rest))) ≤ Port.budget o :=
      Port.budget_write_le _ o
    rw [length] at result
    refine ⟨_ :: calls, .cons (.takes result) gets, ?_⟩
    rw [List.length_cons, List.length_append]
    omega
  | @again part rest o o₁ o₂ e nonempty call transient _ ih =>
    obtain ⟨calls, gets, few⟩ := ih
    obtain ⟨result, rfl⟩ := Prod.mk.inj call
    have lower : Port.budget (o.make (.write (part ++ rest))) < Port.budget o :=
      Port.budget_write_retry result transient
    refine ⟨_ :: calls, .cons (.writesAgain transient result) gets, ?_⟩
    rw [List.length_cons]
    omega

/-- The reads of a receive use up some of the port. -/
theorem gets_of_asks (h : Port.Asks part missing o o') :
    ∃ calls, Gets calls o o' ∧ calls.length + Port.budget o' ≤ Port.budget o := by
  induction h with
  | nil => exact ⟨[], .nil, by simp⟩
  | @brought first part missing o o₁ o₂ nonempty call _ ih =>
    obtain ⟨calls, gets, few⟩ := ih
    obtain ⟨result, rfl⟩ := Prod.mk.inj call
    have lower : Port.budget (o.make (.read (first.length + part.length + missing))) < Port.budget o :=
      Port.budget_read_lt result nonempty
    refine ⟨_ :: calls, .cons (.brings nonempty result) gets, ?_⟩
    rw [List.length_cons]
    omega
  | @again part missing o o₁ o₂ e some call transient _ ih =>
    obtain ⟨calls, gets, few⟩ := ih
    obtain ⟨result, rfl⟩ := Prod.mk.inj call
    have lower : Port.budget (o.make (.read (part.length + missing))) < Port.budget o :=
      Port.budget_read_retry result transient
    refine ⟨_ :: calls, .cons (.readsAgain transient result) gets, ?_⟩
    rw [List.length_cons]
    omega

end Observed

namespace Wire

/-- Calls that get the host on, each of which uses up some of the port or goes towards the bytes that are taken,
which count twice since they are to be pushed out as well. -/
structure Advance (calls : List Port.Call) (w w' : Wire (Observed σ)) : Prop where
  gets : Observed.Gets calls w.port w'.port
  few : calls.length + Port.budget w'.port + 2 * w.traffic.taken.length ≤
    Port.budget w.port + 2 * w'.traffic.taken.length

/-- Between two wires there are calls that get the host on, and behind them one that does not, unless it came
through. -/
inductive Paced : Bool → Wire (Observed σ) → Wire (Observed σ) → Prop where
  | whole {through : Bool} {calls : List Port.Call} {w w' : Wire (Observed σ)} : Advance calls w w' →
      Paced through w w'
  | cut {c : Port.Call} {calls : List Port.Call} {w w' : Wire (Observed σ)} : Advance calls w w' →
      c.Stops w'.port.port → Paced false w ⟨w'.port.make c, w'.traffic⟩

variable {w w' w'' : Wire (Observed σ)} {calls calls' : List Port.Call} {through : Bool}

theorem Advance.append (h : Advance calls w w') (h' : Advance calls' w' w'') :
    Advance (calls ++ calls') w w'' := by
  refine ⟨h.gets.append h'.gets, ?_⟩
  have few := h.few
  have few' := h'.few
  rw [List.length_append]
  omega

theorem Paced.nothing (through : Bool) (w : Wire (Observed σ)) : Paced through w w :=
  .whole ⟨.nil, by simp⟩

/-- Where every call got the host on, nothing has to be told of it. -/
theorem Paced.weaken (h : Paced true w w') : Paced through w w' := by
  cases h with
  | whole advance => exact .whole advance

theorem Paced.append (h : Paced true w w') (h' : Paced through w' w'') : Paced through w w'' := by
  cases h with
  | whole advance =>
    cases h' with
    | whole advance' => exact .whole (advance.append advance')
    | cut advance' stops => exact .cut (advance.append advance') stops

theorem SendCalls.paced {bytes : Bytes} {r : Except DeviceFault Unit} (nonempty : bytes ≠ [])
    (h : SendCalls bytes w r w') : Paced r.isOk w w' := by
  cases h with
  | @intro part rest _ _ o _ offers ends =>
    obtain ⟨calls, gets, few⟩ := Observed.gets_of_offers offers
    have advance : Advance calls w ⟨o, w.traffic.take part⟩ := by
      refine ⟨gets, ?_⟩
      rw [Traffic.taken_take, List.length_append]
      dsimp only
      omega
    cases ends with
    | flushed call =>
      obtain ⟨result, rfl⟩ := Prod.mk.inj call
      rw [List.append_nil] at nonempty
      -- A flush is paid for by the second count of the bytes in front of it, so there has to be one.
      have some := List.length_pos_iff.2 nonempty
      have lower : Port.budget (o.make .flush) ≤ Port.budget o := Port.budget_flush_le o
      refine .whole ⟨gets.append (.cons (.flushes result) .nil), ?_⟩
      rw [List.length_append, List.length_singleton, Traffic.taken_flush, Traffic.taken_take,
        List.length_append]
      dsimp only
      omega
    | unflushed call =>
      obtain ⟨result, rfl⟩ := Prod.mk.inj call
      refine .cut advance ⟨nofun, nofun, ?_⟩
      rintro ⟨⟩
      rename_i pushed
      cases result.symm.trans pushed
    | stopped some call =>
      obtain ⟨result, rfl⟩ := Prod.mk.inj call
      refine .cut advance ⟨nofun, fun same => some (Port.Call.write.inj same), ?_⟩
      intro advances
      cases advances with
      | takes taken => cases result.symm.trans taken
      | writesAgain _ failed => cases result.symm.trans failed
    | broken some call final =>
      obtain ⟨result, rfl⟩ := Prod.mk.inj call
      refine .cut advance ⟨nofun, fun same => some (Port.Call.write.inj same), ?_⟩
      intro advances
      cases advances with
      | takes taken => cases result.symm.trans taken
      | writesAgain transient failed =>
        cases result.symm.trans failed
        rw [transient] at final
        cases final

theorem ReceiveCalls.paced {count : Nat} {r : Except DeviceFault Bytes} (h : ReceiveCalls count w r w') :
    Paced r.isOk w w' := by
  cases h with
  | @intro part missing _ _ o _ asks ends =>
    obtain ⟨calls, gets, few⟩ := Observed.gets_of_asks asks
    have advance : Advance calls w ⟨o, w.traffic.deliver part.length⟩ := by
      refine ⟨gets, ?_⟩
      rw [Traffic.taken_deliver]
      dsimp only
      omega
    cases ends with
    | complete => exact .whole advance
    | closed some call =>
      obtain ⟨result, rfl⟩ := Prod.mk.inj call
      refine .cut advance ⟨fun same => some (Port.Call.read.inj same), nofun, ?_⟩
      intro advances
      cases advances with
      | brings nonempty brought => exact nonempty (Except.ok.inj (result.symm.trans brought)).symm
      | readsAgain _ failed => cases result.symm.trans failed
    | broken some call final =>
      obtain ⟨result, rfl⟩ := Prod.mk.inj call
      refine .cut advance ⟨fun same => some (Port.Call.read.inj same), nofun, ?_⟩
      intro advances
      cases advances with
      | brings _ brought => cases result.symm.trans brought
      | readsAgain transient failed =>
        cases result.symm.trans failed
        rw [transient] at final
        cases final

end Wire

/-- What came of a call is no failure of the line. -/
def online (x : Option Fault) : Bool := !x.any Fault.isLineFailure

namespace Line

variable {l l' : Line (Observed σ)}

theorem paced_of_send {bytes : Bytes} {r : Except DeviceFault Unit} (nonempty : bytes ≠ [])
    (h : l.send bytes = (r, l')) : Wire.Paced r.isOk l.wire l'.wire := by
  have calls := (send_calls bytes l).paced nonempty
  rwa [h] at calls

theorem paced_of_receive {count : Nat} {r : Except DeviceFault Bytes} (h : l.receive count = (r, l')) :
    Wire.Paced r.isOk l.wire l'.wire :=
  (receiveCalls_iff.2 ⟨congrArg Prod.fst h, congrArg (·.2.wire) h⟩).paced

theorem paced_of_receiveByte {r : Except DeviceFault UInt8} (h : l.receiveByte = (r, l')) :
    Wire.Paced r.isOk l.wire l'.wire := by
  unfold receiveByte at h
  split at h <;> rename_i heard <;> obtain ⟨rfl, rfl⟩ := Prod.mk.inj h
  · exact paced_of_receive heard
  · exact (paced_of_receive heard).weaken
  · exact paced_of_receive heard

theorem paced_of_awaitReady {dropped : Nat} {r : Except DeviceFault Nat}
    (h : l.awaitReady dropped = (r, l')) : Wire.Paced r.isOk l.wire l'.wire := by
  fun_induction awaitReady dropped l with
  | case1 dropped l l₁ heard =>
    obtain ⟨rfl, rfl⟩ := Prod.mk.inj h
    exact paced_of_receiveByte heard
  | case2 dropped l b l₁ heard _ ih =>
    have first := paced_of_receiveByte heard
    exact first.append (ih h)
  | case3 dropped l e l₁ heard =>
    obtain ⟨rfl, rfl⟩ := Prod.mk.inj h
    exact paced_of_receiveByte heard

theorem paced_of_awaitAnswer {skipped : Nat} {r : Except DeviceFault (UInt8 × Nat)}
    (h : l.awaitAnswer skipped = (r, l')) : Wire.Paced r.isOk l.wire l'.wire := by
  fun_induction awaitAnswer skipped l with
  | case1 skipped l l₁ heard ih =>
    have first := paced_of_receiveByte heard
    exact first.append (ih h)
  | case2 skipped l b l₁ heard _ =>
    obtain ⟨rfl, rfl⟩ := Prod.mk.inj h
    exact paced_of_receiveByte heard
  | case3 skipped l e l₁ heard =>
    obtain ⟨rfl, rfl⟩ := Prod.mk.inj h
    exact paced_of_receiveByte heard

theorem paced_of_issue {c : Command} {r : Except Fault Unit} (h : l.issue c = (r, l')) :
    Wire.Paced (online (fault? r)) l.wire l'.wire := by
  cases r with
  | ok _ =>
    obtain ⟨k, same, sent⟩ := send_of_issue_ok h
    rw [← same]
    exact paced_of_send (List.cons_ne_nil _ _) sent
  | error e =>
    obtain ⟨k, cause, same, unsent, rfl⟩ := send_of_issue_error h
    rw [← same]
    exact paced_of_send (List.cons_ne_nil _ _) unsent

theorem paced_of_command {c : Command} {stage : Stage} {r : Except Fault Unit}
    (h : l.command c stage = (r, l')) : Wire.Paced (online (fault? r)) l.wire l'.wire := by
  unfold command at h
  split at h
  · rename_i unsent
    obtain ⟨rfl, rfl⟩ := Prod.mk.inj h
    exact paced_of_issue unsent
  · rename_i issued
    apply (paced_of_issue issued).append
    unfold awaitAck at h
    split at h <;> rename_i heard
    · obtain ⟨rfl, rfl⟩ := Prod.mk.inj h
      exact paced_of_receiveByte heard
    · have answered := paced_of_receiveByte heard
      split at h <;> obtain ⟨rfl, rfl⟩ := Prod.mk.inj h <;> exact answered.weaken

theorem paced_of_fetch {length : UInt32} {address : UInt64} {r : Except Fault Bytes}
    (h : l.fetch length address = (r, l')) : Wire.Paced (online (fault? r)) l.wire l'.wire := by
  unfold fetch at h
  split at h
  · rename_i unsent
    obtain ⟨rfl, rfl⟩ := Prod.mk.inj h
    exact paced_of_issue unsent
  · rename_i issued
    apply (paced_of_issue issued).append
    split at h <;> rename_i heard <;> obtain ⟨rfl, rfl⟩ := Prod.mk.inj h
    · exact paced_of_receive heard
    · have brought := paced_of_receive heard
      exact brought

end Line

namespace Wire

variable {w w' : Wire (Observed σ)} {start : Start}

/-- The pace goes over from exchanges to calls. -/
theorem lifts_paced : Lifts fun x (w w' : Wire (Observed σ)) => Paced (online x) w w' where
  nothing _ := .nothing _ _
  append first later := first.append later
  skipped usage h := by
    rw [online, Option.any_some, Fault.isLineFailure_of_isUsage usage] at h
    exact h
  command h := Line.paced_of_command h
  fetch h := Line.paced_of_fetch h

theorem Waits.paced (h : w.Waits start w') : Paced true w w' := by
  cases h with
  | awake => exact .nothing _ _
  | found found => exact Line.paced_of_awaitReady found

theorem Greets.paced (h : w.Greets start w') : Paced true w w' := by
  cases h with
  | intro waits sent heard =>
    have nocked := Line.paced_of_send (by decide) sent
    exact waits.paced.append (nocked.append (Line.paced_of_awaitAnswer heard))

theorem Rebuffs.paced {e : Fault} (h : w.Rebuffs start e w') : Paced (online (some e)) w w' := by
  cases h with
  | unready _ lost => exact Line.paced_of_awaitReady lost
  | unsent waits unsent =>
    have cut := Line.paced_of_send (by decide) unsent
    exact waits.paced.append cut
  | unheard waits sent lost =>
    have nocked := Line.paced_of_send (by decide) sent
    exact waits.paced.append (nocked.append (Line.paced_of_awaitAnswer lost))
  | refused waits sent heard _ =>
    have nocked := Line.paced_of_send (by decide) sent
    exact waits.paced.append (nocked.append (Line.paced_of_awaitAnswer heard))

end Wire

/-- A greeting keeps pace, whatever comes of it. -/
theorem Line.paced_of_greet {start : Start} {r : Except Fault Unit} {l l' : Line (Observed σ)}
    (h : l.greet start = (r, l')) : Wire.Paced (online (fault? r)) l.wire l'.wire := by
  cases r with
  | ok _ => exact (greets_of_greet_ok h).paced
  | error e => exact (rebuffs_of_greet_error h).paced

/-- So does a whole run. -/
theorem Connection.paced_of_run (storage : Storage) (setup : Setup) (conn : Connection (Observed σ)) :
    Wire.Paced (online (told (conn.run storage setup).1)) conn.line.wire
      (conn.run storage setup).2.line.wire :=
  Wire.lifts_paced.run Line.paced_of_greet storage setup conn

end BootHost
