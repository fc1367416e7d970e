import BootHost.Journal
import BootHost.Port

/-!
# The line

A line is a port together with what went over it and what the host told about it. `Traffic`
counts the bytes in both directions and groups the bytes that were taken by the flushes between
them, each group with the number of bytes that had been delivered when it was flushed. The three
calls of the port are wrapped so that no byte passes unrecorded.
-/

namespace BootHost

/-- Bytes that were pushed out together. -/
structure Group where
  /-- How many bytes had been delivered by then. -/
  after : Nat
  bytes : Bytes
  deriving DecidableEq

/-- What went over a line. The two lists grow at the front, so they hold the latest first. -/
structure Traffic where
  /-- Bytes delivered so far. -/
  delivered : Nat := 0
  /-- Bytes taken so far. -/
  written : Nat := 0
  /-- Bytes taken since the last group, the latest first. -/
  pendingRev : Bytes := []
  /-- The groups, the latest first. -/
  groupsRev : List Group := []

namespace Traffic

/-- The groups in order. -/
def groups (t : Traffic) : List Group := t.groupsRev.reverse

/-- The bytes of all groups in order. -/
def flushed (t : Traffic) : Bytes := t.groups.flatMap Group.bytes

/-- All bytes taken, in order. -/
def taken (t : Traffic) : Bytes := t.flushed ++ t.pendingRev.reverse

/-- Records a delivery. -/
def deliver (count : Nat) (t : Traffic) : Traffic := { t with delivered := t.delivered + count }

/-- Records bytes that were taken. -/
def take (bytes : Bytes) (t : Traffic) : Traffic :=
  { t with
    written := t.written + bytes.length
    pendingRev := bytes.reverseAux t.pendingRev }

/-- Closes a group, unless there is nothing to put into it. -/
def flush (t : Traffic) : Traffic :=
  match t.pendingRev with
  | [] => t
  | _ :: _ =>
    { t with
      pendingRev := []
      groupsRev := ⟨t.delivered, t.pendingRev.reverse⟩ :: t.groupsRev }

@[simp] theorem taken_deliver (count : Nat) (t : Traffic) : (t.deliver count).taken = t.taken := rfl

@[simp] theorem taken_take (bytes : Bytes) (t : Traffic) :
    (t.take bytes).taken = t.taken ++ bytes := by
  simp [taken, take, flushed, groups, List.reverseAux_eq]

@[simp] theorem taken_flush (t : Traffic) : t.flush.taken = t.taken := by
  unfold flush
  split
  · rfl
  · rename_i h
    simp [taken, flushed, groups, h]

end Traffic

/-- A port, what went over it, and what the host told about it, the latest note first. -/
structure Line (σ : Type) where
  port : σ
  traffic : Traffic := {}
  notes : List Note := []

namespace Line

variable {σ : Type}

/-- Adds a note. -/
def note (n : Note) (l : Line σ) : Line σ := { l with notes := n :: l.notes }

@[simp] theorem note_port (n : Note) (l : Line σ) : (l.note n).port = l.port := rfl

@[simp] theorem note_traffic (n : Note) (l : Line σ) : (l.note n).traffic = l.traffic := rfl

variable [Port σ]

/-- One read call of at most `n` bytes. -/
def read (n : Nat) (l : Line σ) : Except DeviceFault Bytes × Line σ :=
  match Port.read n l.port with
  | (.ok bytes, port) =>
    (.ok bytes, { l with port := port, traffic := l.traffic.deliver bytes.length })
  | (.error e, port) => (.error e, { l with port := port })

/-- One write call that offers `bytes`. -/
def write (bytes : Bytes) (l : Line σ) : Except DeviceFault Nat × Line σ :=
  match Port.write bytes l.port with
  | (.ok count, port) =>
    (.ok count, { l with port := port, traffic := l.traffic.take (bytes.take count) })
  | (.error e, port) => (.error e, { l with port := port })

/-- One flush call; a group is closed when it succeeds. -/
def flush (l : Line σ) : Except DeviceFault Unit × Line σ :=
  match Port.flush l.port with
  | (.ok (), port) => (.ok (), { l with port := port, traffic := l.traffic.flush })
  | (.error e, port) => (.error e, { l with port := port })

/-- How long the port can still keep the host busy. -/
def budget (l : Line σ) : Nat := Port.budget l.port

@[simp] theorem budget_note (n : Note) (l : Line σ) : (l.note n).budget = l.budget := rfl

theorem read_fst (n : Nat) (l : Line σ) : (l.read n).1 = (Port.read n l.port).1 := by
  unfold read
  split <;> simp_all

theorem read_port (n : Nat) (l : Line σ) : (l.read n).2.port = (Port.read n l.port).2 := by
  unfold read
  split <;> simp_all

theorem write_fst (bytes : Bytes) (l : Line σ) :
    (l.write bytes).1 = (Port.write bytes l.port).1 := by
  unfold write
  split <;> simp_all

theorem write_port (bytes : Bytes) (l : Line σ) :
    (l.write bytes).2.port = (Port.write bytes l.port).2 := by
  unfold write
  split <;> simp_all

theorem budget_read_le (n : Nat) (l : Line σ) : (l.read n).2.budget ≤ l.budget := by
  rw [budget, read_port]
  exact Port.budget_read_le n l.port

theorem budget_read_lt {n : Nat} {l l' : Line σ} {bytes : Bytes} (h : l.read n = (.ok bytes, l'))
    (hne : bytes ≠ []) : l'.budget < l.budget := by
  have h1 := (read_fst n l).symm.trans (congrArg Prod.fst h)
  have h2 := (read_port n l).symm.trans (congrArg (fun r => r.2.port) h)
  simpa only [budget, h2] using Port.budget_read_lt h1 hne

theorem budget_read_retry {n : Nat} {l l' : Line σ} {e : DeviceFault} (h : l.read n = (.error e, l'))
    (ht : e.isTransient = true) : l'.budget < l.budget := by
  have h1 := (read_fst n l).symm.trans (congrArg Prod.fst h)
  have h2 := (read_port n l).symm.trans (congrArg (fun r => r.2.port) h)
  simpa only [budget, h2] using Port.budget_read_retry h1 ht

theorem budget_write_le (bytes : Bytes) (l : Line σ) : (l.write bytes).2.budget ≤ l.budget := by
  rw [budget, write_port]
  exact Port.budget_write_le bytes l.port

theorem budget_write_retry {bytes : Bytes} {l l' : Line σ} {e : DeviceFault}
    (h : l.write bytes = (.error e, l')) (ht : e.isTransient = true) : l'.budget < l.budget := by
  have h1 := (write_fst bytes l).symm.trans (congrArg Prod.fst h)
  have h2 := (write_port bytes l).symm.trans (congrArg (fun r => r.2.port) h)
  simpa only [budget, h2] using Port.budget_write_retry h1 ht

end Line

end BootHost
