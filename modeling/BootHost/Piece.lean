import BootHost.Bytes
import BootHost.Fault.Device

/-!
# Pieces

What one call that reads brings: some bytes, or a fault. A list of pieces is all that a line or a
file will ever say, in order. A call takes the front piece and may leave a part of it; pieces
without bytes look like the end for one call. `weight` bounds the number of calls that bring
something.
-/

namespace BootHost

/-- What one call that reads brings. -/
inductive Piece where
  | data (bytes : Bytes)
  | fault (cause : DeviceFault)
  deriving DecidableEq

namespace Piece

/-- What a piece counts for: itself and its bytes. -/
def weight : Piece → Nat
  | .data bytes => 1 + bytes.length
  | .fault _ => 1

/-- What a list of pieces counts for. -/
def totalWeight : List Piece → Nat
  | [] => 0
  | p :: pieces => p.weight + totalWeight pieces

/-- Puts what is left of a piece back in front; nothing is put back when nothing is left. -/
def putBack : Bytes → List Piece → List Piece
  | [], pieces => pieces
  | b :: rest, pieces => .data (b :: rest) :: pieces

@[simp] theorem totalWeight_cons (p : Piece) (pieces : List Piece) :
    totalWeight (p :: pieces) = p.weight + totalWeight pieces := rfl

theorem totalWeight_putBack_le (bytes : Bytes) (pieces : List Piece) :
    totalWeight (putBack bytes pieces) ≤ 1 + bytes.length + totalWeight pieces := by
  cases bytes <;> simp [putBack, weight]

end Piece

end BootHost
