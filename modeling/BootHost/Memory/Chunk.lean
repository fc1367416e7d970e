import BootHost.Memory.Address

/-!
# Chunks

A chunked write goes out in chunks of one size, the last one perhaps shorter. A chunk size is
never zero and never more than one command carries, and what a write covered is counted in
chunks and in bytes.
-/

namespace BootHost.Memory

/-- The most bytes that one write of a chunked write carries. -/
structure ChunkSize where
  size : Nat
  pos : 0 < size
  le : size ≤ Protocol.maxChunk

namespace ChunkSize

/-- The nearest chunk size there is. -/
def clamp (n : Nat) : ChunkSize :=
  ⟨max 1 (min n Protocol.maxChunk), by omega, by simp only [Protocol.maxChunk]; omega⟩

/-- The largest chunk size. -/
def largest : ChunkSize := ⟨Protocol.maxChunk, by decide, Nat.le_refl _⟩

end ChunkSize

/-- What a complete write covered. Its counts are never larger than the memory (`Access.writeAll_within`). -/
structure Written where
  start : UInt64
  chunks : Nat
  bytes : Nat
  deriving DecidableEq

namespace Written

/-- The first address past what was written, if there is one. -/
def end? (w : Written) : Option UInt64 :=
  if w.start.toNat + w.bytes < addressCount then some (UInt64.ofNat (w.start.toNat + w.bytes)) else none

/-- Counts one more chunk. -/
def add (length : Nat) (w : Written) : Written :=
  { w with chunks := w.chunks + 1, bytes := w.bytes + length }

end Written

end BootHost.Memory
