import BootHost.Bytes

/-!
# Command headers

What follows the tag of a command. Reads and writes name a block of memory by its length and its
address, a jump names an address only. Both are big-endian and of fixed width, and a decoder
takes the bytes it needs from the front and leaves the rest.
-/

namespace BootHost

/-- The header of reads and writes. -/
structure BlockHeader where
  length : UInt32
  address : UInt64
  deriving DecidableEq

/-- The header of jumps. -/
structure JumpHeader where
  address : UInt64
  deriving DecidableEq

namespace BlockHeader

/-- Bytes of a block header. -/
def width : Nat := 12

/-- The header as it is sent. -/
def encode (h : BlockHeader) : Bytes :=
  BigEndian.encode 4 h.length.toNat ++ BigEndian.encode 8 h.address.toNat

/-- The header at the front of some bytes, if there are enough of them. -/
def decode? (bytes : Bytes) : Option BlockHeader :=
  if width ≤ bytes.length then
    some ⟨UInt32.ofNat (BigEndian.value (bytes.take 4)),
      UInt64.ofNat (BigEndian.value ((bytes.drop 4).take 8))⟩
  else none

@[simp] theorem length_encode (h : BlockHeader) : h.encode.length = width := by
  simp [encode, width]

end BlockHeader

namespace JumpHeader

/-- Bytes of a jump header. -/
def width : Nat := 8

/-- The header as it is sent. -/
def encode (h : JumpHeader) : Bytes :=
  BigEndian.encode 8 h.address.toNat

/-- The header at the front of some bytes, if there are enough of them. -/
def decode? (bytes : Bytes) : Option JumpHeader :=
  if width ≤ bytes.length then some ⟨UInt64.ofNat (BigEndian.value (bytes.take 8))⟩ else none

@[simp] theorem length_encode (h : JumpHeader) : h.encode.length = width := by
  simp [encode, width]

end JumpHeader

end BootHost
