import BootHost.Proofs.Dispatch
import BootHost.Proofs.Session

/-!
# From exchanges to calls

What every exchange on a wire does, every call on an access does, since a call is nothing but exchanges on
the wire. The argument is made once, for any relation on wires that is told the fault that came of it
(`Wire.Lifts`): it has to hold of each command and of each fetch, to hold where nothing happened, and to go
on behind what succeeded. Then it holds of every call (`Wire.Lifts.call`) and of a whole request, told what
the report tells (`Wire.Lifts.performAll`); and where it holds of greetings, it holds of a whole run
(`Wire.Lifts.run`).
-/

namespace BootHost

open Memory

/-- The fault that came of a call. -/
def fault? {α : Type} : Except Fault α → Option Fault
  | .ok _ => none
  | .error e => some e

theorem fault?_map {α β : Type} (f : α → β) (r : Except Fault α) : fault? (r.map f) = fault? r := by
  cases r <;> rfl

variable {σ : Type} [Port σ]

/-- A relation on wires, told the fault that came of it if there was one, that goes from exchanges over to
calls. -/
structure Wire.Lifts (R : Option Fault → Wire σ → Wire σ → Prop) : Prop where
  /-- Nothing may happen, unless the line is said to have failed. -/
  nothing {x : Option Fault} {w : Wire σ} : x.any Fault.isLineFailure = false → R x w w
  /-- Anything may happen behind what succeeded. -/
  append {x : Option Fault} {w w' w'' : Wire σ} : R none w w' → R x w' w'' → R x w w''
  /-- What is skipped counts as a success. -/
  skipped {e : Fault} {w w' : Wire σ} : e.isUsage = true → R (some e) w w' → R none w w'
  command {c : Command} {stage : Stage} {r : Except Fault Unit} {l l' : Line σ} :
    l.command c stage = (r, l') → R (fault? r) l.wire l'.wire
  fetch {length : UInt32} {address : UInt64} {r : Except Fault Bytes} {l l' : Line σ} :
    l.fetch length address = (r, l') → R (fault? r) l.wire l'.wire

namespace Wire.Lifts

variable {R : Option Fault → Wire σ → Wire σ → Prop} {a a' : Access σ}

theorem access_command (lifts : Lifts R) {c : Command} {stage : Stage} {r : Except Fault Unit}
    (h : a.command c stage = (r, a')) : R (fault? r) a.wire a'.wire := by
  unfold Access.command at h
  rcases hl : a.conn.line.command c stage with ⟨r', l⟩
  rw [hl] at h
  obtain ⟨rfl, rfl⟩ := Prod.mk.inj h
  exact lifts.command hl

theorem writeBlock (lifts : Lifts R) {address : UInt64} {bytes : Bytes} {r : Except Fault Unit}
    (h : a.writeBlock address bytes = (r, a')) : R (fault? r) a.wire a'.wire := by
  unfold Access.writeBlock Command.writeBlock at h
  by_cases countable : bytes.length < UInt32.size
  · rw [dif_pos countable] at h
    exact lifts.access_command h
  · rw [dif_neg countable] at h
    obtain ⟨rfl, rfl⟩ := Prod.mk.inj h
    exact lifts.nothing rfl

/-- A chunked write, wherever it stops. -/
theorem writeChunks (lifts : Lifts R) (w : Written) (source : Source) (a : Access σ) :
    R (fault? (a.writeChunks w source).1) a.wire (a.writeChunks w source).2.2.wire := by
  fun_induction Access.writeChunks w source a with
  | case1 => exact lifts.nothing rfl
  | case2 => exact lifts.nothing rfl
  | case3 w source a b bytes rest hf e hp =>
    apply lifts.nothing
    unfold Access.stopped
    split
    · rfl
    · exact Access.not_lineFailure_of_place hp
  | case4 w source a b bytes rest hf address next hp e a' hw =>
    have last := lifts.writeBlock hw
    exact last
  | case5 w source a b bytes rest hf address next hp a' hw ih =>
    have first := lifts.writeBlock hw
    exact lifts.append first ih

theorem writeAll (lifts : Lifts R) {source rest : Source} {r : Except Fault Written}
    (h : a.writeAll source = (r, rest, a')) : R (fault? r) a.wire a'.wire := by
  unfold Access.writeAll at h
  split at h
  · rename_i lost
    cases h
    exact lifts.nothing (Access.not_lineFailure_of_here lost)
  · rename_i address _
    have chunks := lifts.writeChunks ⟨address, 0, 0⟩ source a
    rwa [h] at chunks

theorem writeFile (lifts : Lifts R) {storage : Storage} {path : String} {r : Except Fault Written}
    (h : a.writeFile storage path = (r, a')) : R (fault? r) a.wire a'.wire := by
  rcases Access.writeFile_cases h with ⟨rfl, e, rfl, online⟩ | ⟨source, p, p', rest, b, hw, rfl⟩
  · exact lifts.nothing online
  · have written := lifts.writeAll hw
    exact written

/-- A call that is one command. -/
theorem ends (lifts : Lifts R) {α : Type} {c : Command} {stage : Stage} {r : Except Fault α} {n : Note}
    (h : Access.Ends ((a.note n).command c stage) (r, a')) : R (fault? r) a.wire a'.wire := by
  generalize hw : (a.note n).command c stage = x at h
  obtain ⟨r', b⟩ := x
  have command := lifts.access_command hw
  cases h with
  | failed => exact command
  | done => exact command

theorem writeValue (lifts : Lifts R) {value : UInt64} {length : Nat} {r : Except Fault Written}
    (h : a.writeValue value length = (r, a')) : R (fault? r) a.wire a'.wire := by
  rcases Access.writeValue_cases h with ⟨rfl, e, rfl, online⟩ | ⟨address, next, n, p, -, -, -, ends⟩
  · exact lifts.nothing online
  · rw [Access.writeBlock_eq] at ends
    exact lifts.ends ends

theorem read (lifts : Lifts R) {length : UInt32} {r : Except Fault (UInt64 × Bytes)}
    (h : a.read length = (r, a')) : R (fault? r) a.wire a'.wire := by
  rcases Access.read_cases h with ⟨rfl, e, rfl, online⟩ | ⟨address, r', l, -, hl, same⟩
  · exact lifts.nothing online
  · obtain ⟨rfl, rfl⟩ := Prod.mk.inj same
    rw [fault?_map]
    have fetched := lifts.fetch hl
    exact fetched

theorem jump (lifts : Lifts R) {r : Except Fault UInt64} (h : a.jump = (r, a')) :
    R (fault? r) a.wire a'.wire := by
  rcases Access.jump_cases h with ⟨rfl, e, rfl, online⟩ | ⟨address, -, ends⟩
  · exact lifts.nothing online
  · exact lifts.ends ends

theorem perform (lifts : Lifts R) {storage : Storage} {action : Action} {r : Except Fault Outcome}
    (h : a.perform storage action = (r, a')) : R (fault? r) a.wire a'.wire := by
  unfold Access.perform at h
  cases action <;> dsimp only at h <;> split at h <;> cases h
  · exact lifts.writeFile (r := .ok _) ‹_›
  · exact lifts.writeFile (r := .error _) ‹_›
  · exact lifts.writeValue (r := .ok _) ‹_›
  · exact lifts.writeValue (r := .error _) ‹_›
  · exact lifts.read (r := .ok _) ‹_›
  · exact lifts.read (r := .error _) ‹_›
  · exact lifts.jump (r := .ok _) ‹_›
  · exact lifts.jump (r := .error _) ‹_›

/-- Every call, whatever becomes of it. -/
theorem call (lifts : Lifts R) {c : Call} {r : Except Fault Outcome} (h : a.call c = (r, a')) :
    R (fault? r) a.wire a'.wire := by
  cases c with
  | writeAll source =>
    unfold Access.call at h
    dsimp only at h
    split at h <;> cases h
    · exact lifts.writeAll (r := .ok _) ‹_›
    · exact lifts.writeAll (r := .error _) ‹_›
  | perform storage action => exact lifts.perform h

/-- An action that is attempted, told the failure that its entry tells. -/
theorem attempted (lifts : Lifts R) {storage : Storage} {action : Action} {entry : Entry}
    (h : Access.Attempted storage action entry a a') : R entry.outcome.failure? a.wire a'.wire := by
  rcases h.outcome with ⟨performed, completes⟩ | ⟨e, b, performed, same, outcome⟩
  · rw [Outcome.failure?_eq_none_iff.2 completes.succeeds.2]
    exact lifts.perform performed
  · have failed := lifts.perform performed
    rw [same.wire] at failed
    rw [outcome]
    split
    · exact lifts.skipped ‹_› failed
    · exact failed

/-- A whole request, told the failure that its report tells. -/
theorem performAll (lifts : Lifts R) (storage : Storage) (actions : List Action) (a : Access σ) :
    R (Report.mk (a.performAll storage actions).1).failure? a.wire (a.performAll storage actions).2.wire := by
  induction actions generalizing a with
  | nil => exact lifts.nothing rfl
  | cons action rest ih =>
    rcases attempt : a.attempt storage action with ⟨entry, b⟩
    have first := lifts.attempted (Access.attempted attempt)
    rw [Access.performAll_cons rest attempt]
    unfold Report.failure?
    split
    · rename_i goes
      rw [goes] at first
      rw [List.findSome?_cons, goes]
      exact lifts.append first (ih b)
    · rename_i fails
      obtain ⟨e, he⟩ := Option.ne_none_iff_exists'.1 fails
      rw [List.findSome?_cons, he]
      rwa [he] at first

end Wire.Lifts

/-- The fault that a run tells, be it in its report. -/
def Connection.told : Except Fault Report → Option Fault
  | .error e => some e
  | .ok report => report.failure?

namespace Wire.Lifts

variable {R : Option Fault → Wire σ → Wire σ → Prop}

/-- What holds of greetings as well holds of connecting. -/
theorem connect (lifts : Lifts R)
    (greet : ∀ {start : Start} {r : Except Fault Unit} {l l' : Line σ},
      l.greet start = (r, l') → R (fault? r) l.wire l'.wire)
    {start : Start} {r : Except Fault Unit} {conn conn' : Connection σ} (h : conn.connect start = (r, conn')) :
    R (fault? r) conn.line.wire conn'.line.wire := by
  rcases Connection.connect_cases h with ⟨-, greeted, -⟩ | ⟨-, rfl, rfl⟩
  · exact greet greeted
  · exact lifts.nothing rfl

/-- And it holds of a whole run, told the fault that the run tells. -/
theorem run (lifts : Lifts R)
    (greet : ∀ {start : Start} {r : Except Fault Unit} {l l' : Line σ},
      l.greet start = (r, l') → R (fault? r) l.wire l'.wire)
    (storage : Storage) (setup : Setup) (conn : Connection σ) :
    R (Connection.told (conn.run storage setup).1) conn.line.wire (conn.run storage setup).2.line.wire := by
  rcases hc : conn.connect (.ofSkipWait setup.skipWait) with ⟨e | _, conn'⟩ <;>
    have greeting := lifts.connect greet hc
  · rw [Connection.run_of_connect_error hc]
    exact greeting
  · obtain ⟨a, line, -, -, run⟩ := Connection.run_of_connect_ok storage hc
    have start : a.wire = conn'.line.wire := by rw [Access.wire, line, Line.wire_note]
    have requested := lifts.performAll storage setup.request.actions a
    rw [start] at requested
    rw [run]
    exact lifts.append greeting requested

end Wire.Lifts

end BootHost
