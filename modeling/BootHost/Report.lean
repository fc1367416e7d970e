import BootHost.Memory.Chunk
import BootHost.Operation

/-!
# Reports

What became of each operation that was attempted, in order. A skipped operation was refused before
anything was sent and does not count against the run; a failed one does.
-/

namespace BootHost

/-- What became of an operation. -/
inductive Outcome where
  | written (summary : Memory.Written)
  | read (address : UInt64) (data : Bytes)
  | jumped (address : UInt64)
  | skipped (reason : Fault)
  | failed (reason : Fault)

/-- An operation and what became of it. -/
structure Entry where
  operation : Operation
  outcome : Outcome

/-- The operations that were attempted, in order. -/
structure Report where
  entries : List Entry

namespace Outcome

/-- The reason of a failure. -/
def failure? : Outcome → Option Fault
  | .failed reason => some reason
  | _ => none

end Outcome

namespace Report

/-- The reason of the first failure. -/
def failure? (r : Report) : Option Fault :=
  r.entries.findSome? fun e => e.outcome.failure?

/-- Nothing failed. -/
def isSuccess (r : Report) : Bool := r.failure?.isNone

/-- The exit status of a run with this report. -/
def exitCode (r : Report) : Nat := if r.isSuccess then 0 else 1

end Report

end BootHost
