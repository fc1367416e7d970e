import BootHost.Port

/-!
# Observed ports

A port that keeps account of the calls that are made on it, and otherwise answers as it would by
itself. A call leaves the port in a state that only depends on the call and on the state before, so
the calls alone tell all that has happened on the port.
-/

namespace BootHost

/-- A call on a port. -/
inductive Port.Call where
  | read (count : Nat)
  | write (bytes : Bytes)
  | flush
  deriving DecidableEq

/-- The port after a call. -/
def Port.Call.next {σ : Type} [Port σ] (c : Call) (s : σ) : σ :=
  match c with
  | .read count => (Port.read count s).2
  | .write bytes => (Port.write bytes s).2
  | .flush => (Port.flush s).2

/-- A port and the calls that were made on it. -/
structure Observed (σ : Type) where
  port : σ
  /-- The calls, the latest first. -/
  madeRev : List Port.Call := []

namespace Observed

variable {σ : Type} [Port σ]

/-- The calls in order. -/
def made (o : Observed σ) : List Port.Call := o.madeRev.reverse

/-- The port after a call, which is kept account of. -/
def make (c : Port.Call) (o : Observed σ) : Observed σ := ⟨c.next o.port, c :: o.madeRev⟩

@[simp] theorem made_make (c : Port.Call) (o : Observed σ) : (o.make c).made = o.made ++ [c] :=
  List.reverse_cons

instance : Port (Observed σ) where
  read count o := ((Port.read count o.port).1, o.make (.read count))
  write bytes o := ((Port.write bytes o.port).1, o.make (.write bytes))
  flush o := ((Port.flush o.port).1, o.make .flush)
  budget o := Port.budget o.port
  read_length_le h := Port.read_length_le h
  write_le_length h := Port.write_le_length h
  budget_read_le count o := Port.budget_read_le count o.port
  budget_read_lt h nonempty := Port.budget_read_lt h nonempty
  budget_read_retry h transient := Port.budget_read_retry h transient
  budget_write_le bytes o := Port.budget_write_le bytes o.port
  budget_write_retry h transient := Port.budget_write_retry h transient
  budget_flush_le o := Port.budget_flush_le o.port

end Observed

end BootHost
