/-!
# Progress

How far the writing of a file has come, for whoever watches it. A count that nobody has begun has
no length worth the name. Finishing moves the position to the end, giving up leaves it where it
is; in both cases the count is over, though later writes still move it.
-/

namespace BootHost.Memory

/-- A position on the way to a length, and whether the count is over. -/
structure Progress where
  position : Nat := 0
  length : Nat := UInt64.size - 1
  finished : Bool := false
  deriving DecidableEq

namespace Progress

/-- Starts over, with another length if there is one. -/
def start (length : Option Nat) (p : Progress) : Progress :=
  { p with position := 0, length := length.getD p.length }

/-- Moves on. -/
def advance (count : Nat) (p : Progress) : Progress := { p with position := p.position + count }

/-- Ends the count at its length. -/
def finish (p : Progress) : Progress := { p with position := p.length, finished := true }

/-- Ends the count where it is. -/
def abandon (p : Progress) : Progress := { p with finished := true }

end Progress

end BootHost.Memory
