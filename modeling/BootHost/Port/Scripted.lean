import BootHost.Piece
import BootHost.Port

/-!
# Scripted ports

A port that answers each call with the next item of a list of its own: one list for reads, one
for writes and one for flushes. Past the end of its list a read finds the line closed, a write
takes all it is offered, and a flush succeeds.
-/

namespace BootHost

/-- What one call that writes meets. -/
inductive Acceptance where
  /-- At most this many bytes are taken. -/
  | upTo (count : Nat)
  | fault (cause : DeviceFault)
  deriving DecidableEq

/-- A port that follows a script. -/
structure Scripted where
  reads : List Piece
  writes : List Acceptance := []
  flushes : List (Except DeviceFault Unit) := []

namespace Scripted

/-- Takes the next piece, and puts back what was not asked for. -/
def read (n : Nat) (s : Scripted) : Except DeviceFault Bytes × Scripted :=
  match s.reads with
  | [] => (.ok [], s)
  | .fault e :: rest => (.error e, { s with reads := rest })
  | .data bytes :: rest =>
    (.ok (bytes.take n), { s with reads := Piece.putBack (bytes.drop n) rest })

/-- Takes as much as the next item allows. -/
def write (bytes : Bytes) (s : Scripted) : Except DeviceFault Nat × Scripted :=
  match s.writes with
  | [] => (.ok bytes.length, s)
  | .upTo count :: rest => (.ok (bytes.take count).length, { s with writes := rest })
  | .fault e :: rest => (.error e, { s with writes := rest })

/-- Answers as the next item says. -/
def flush (s : Scripted) : Except DeviceFault Unit × Scripted :=
  match s.flushes with
  | [] => (.ok (), s)
  | answer :: rest => (answer, { s with flushes := rest })

/-- Adds a piece to the end of the reads. -/
def push (bytes : Bytes) (s : Scripted) : Scripted :=
  { s with reads := s.reads ++ [.data bytes] }

/-- The weight of the reads and the number of writes left. -/
def budget (s : Scripted) : Nat := Piece.totalWeight s.reads + s.writes.length

theorem length_of_read {n : Nat} {s : Scripted} {bytes : Bytes}
    (h : (s.read n).1 = .ok bytes) : bytes.length ≤ n := by
  unfold read at h
  split at h
  · simp only [Except.ok.injEq] at h
    exact h ▸ Nat.zero_le n
  · simp at h
  · simp only [Except.ok.injEq] at h
    exact h ▸ List.length_take_le ..

theorem le_of_write {bytes : Bytes} {s : Scripted} {k : Nat}
    (h : (s.write bytes).1 = .ok k) : k ≤ bytes.length := by
  unfold write at h
  split at h <;> simp at h <;> omega

theorem budget_read (n : Nat) (s : Scripted) : (s.read n).2.budget ≤ s.budget := by
  unfold read
  split
  · exact Nat.le_refl _
  · rename_i h
    simp [budget, h, Piece.weight]
  · rename_i bytes rest h
    have := Piece.totalWeight_putBack_le (bytes.drop n) rest
    simp [budget, h, Piece.weight] at this ⊢
    omega

theorem budget_read_of_ok {n : Nat} {s : Scripted} {bytes : Bytes}
    (h : (s.read n).1 = .ok bytes) (hne : bytes ≠ []) : (s.read n).2.budget < s.budget := by
  unfold read at h ⊢
  split at h
  · simp only [Except.ok.injEq] at h
    exact absurd h.symm hne
  · simp at h
  · rename_i data rest hr
    simp only [Except.ok.injEq] at h
    have hp := List.length_pos_iff.2 (h ▸ hne)
    have := Piece.totalWeight_putBack_le (data.drop n) rest
    simp only [List.length_take, budget, hr, Piece.totalWeight_cons, Piece.weight,
      List.length_drop] at hp this ⊢
    omega

theorem budget_read_of_error {n : Nat} {s : Scripted} {e : DeviceFault}
    (h : (s.read n).1 = .error e) : (s.read n).2.budget < s.budget := by
  unfold read at h ⊢
  split at h
  · simp at h
  · rename_i hr
    simp only [budget, hr, Piece.totalWeight_cons, Piece.weight]
    omega
  · simp at h

theorem budget_write (bytes : Bytes) (s : Scripted) : (s.write bytes).2.budget ≤ s.budget := by
  unfold write
  split <;> simp_all [budget]

theorem budget_write_of_error {bytes : Bytes} {s : Scripted} {e : DeviceFault}
    (h : (s.write bytes).1 = .error e) : (s.write bytes).2.budget < s.budget := by
  unfold write at h ⊢
  split at h <;> simp_all [budget]

theorem budget_flush (s : Scripted) : s.flush.2.budget ≤ s.budget := by
  unfold flush
  split <;> simp [budget]

instance : Port Scripted where
  read := read
  write := write
  flush := flush
  budget := budget
  read_length_le := length_of_read
  write_le_length := le_of_write
  budget_read_le := budget_read
  budget_read_lt := budget_read_of_ok
  budget_read_retry h _ := budget_read_of_error h
  budget_write_le := budget_write
  budget_write_retry h _ := budget_write_of_error h
  budget_flush_le := budget_flush

variable {s : Scripted} {count : Nat} {bytes : Bytes}

theorem read_of_closed (h : s.reads = []) : Port.read count s = (.ok [], s) := by
  change s.read count = _
  rw [read, h]

theorem read_of_fault {e : DeviceFault} {rest : List Piece} (h : s.reads = .fault e :: rest) :
    Port.read count s = (.error e, { s with reads := rest }) := by
  change s.read count = _
  rw [read, h]

theorem read_of_data {data : Bytes} {rest : List Piece} (h : s.reads = .data data :: rest) :
    Port.read count s = (.ok (data.take count), { s with reads := Piece.putBack (data.drop count) rest }) := by
  change s.read count = _
  rw [read, h]

theorem write_of_free (h : s.writes = []) : Port.write bytes s = (.ok bytes.length, s) := by
  change s.write bytes = _
  rw [write, h]

theorem write_of_upTo {most : Nat} {rest : List Acceptance} (h : s.writes = .upTo most :: rest) :
    Port.write bytes s = (.ok (bytes.take most).length, { s with writes := rest }) := by
  change s.write bytes = _
  rw [write, h]

theorem write_of_fault {e : DeviceFault} {rest : List Acceptance} (h : s.writes = .fault e :: rest) :
    Port.write bytes s = (.error e, { s with writes := rest }) := by
  change s.write bytes = _
  rw [write, h]

theorem flush_of_free (h : s.flushes = []) : Port.flush s = (.ok (), s) := by
  change s.flush = _
  rw [flush, h]

theorem flush_of_cons {answer : Except DeviceFault Unit} {rest : List (Except DeviceFault Unit)}
    (h : s.flushes = answer :: rest) : Port.flush s = (answer, { s with flushes := rest }) := by
  change s.flush = _
  rw [flush, h]

end Scripted

end BootHost
