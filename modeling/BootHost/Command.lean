import BootHost.Command.Header
import BootHost.Fault

/-!
# Commands

What the host asks of the board once the two have greeted each other: read a block of memory,
write one, or jump. A command is sent as its tag, its header and, for a write, the payload whose
length the header declares. A write therefore holds a payload that the length field can count,
and the two ways of building one refuse every other payload.
-/

namespace BootHost

/-- Bytes that the length field of a header can count. -/
structure Payload where
  bytes : Bytes
  length_lt : bytes.length < UInt32.size

/-- What the board is asked to do. -/
inductive Command where
  | read (header : BlockHeader)
  | write (address : UInt64) (payload : Payload)
  | jump (header : JumpHeader)

/-- The first byte of a command. -/
inductive Tag where
  | read
  | write
  | jump
  deriving DecidableEq

namespace Tag

/-- A tag as it is sent. -/
def byte : Tag → UInt8
  | .read => 0x52
  | .write => 0x57
  | .jump => 0x4A

/-- The name of a tag. -/
def name : Tag → String
  | .read => "Read"
  | .write => "Write"
  | .jump => "Jump"

end Tag

namespace Payload

/-- The length that the header of a write declares. -/
def length (p : Payload) : UInt32 := UInt32.ofNat p.bytes.length

end Payload

namespace Command

/-- A read of `length` bytes at `address`. -/
def readBlock (length : UInt32) (address : UInt64) : Command := .read ⟨length, address⟩

/-- A jump to `address`. -/
def jumpTo (address : UInt64) : Command := .jump ⟨address⟩

/-- A write of a payload that is declared to have some length; the two must agree. -/
def writeDeclared (length : UInt32) (address : UInt64) (payload : Bytes) : Except Fault Command :=
  if h : payload.length = length.toNat then
    .ok (.write address ⟨payload, h ▸ length.toNat_lt_size⟩)
  else .error (.lengthMismatch length payload.length)

/-- A write of a payload whose length is taken from the payload itself. -/
def writeBlock (address : UInt64) (payload : Bytes) : Except Fault Command :=
  if h : payload.length < UInt32.size then .ok (.write address ⟨payload, h⟩)
  else .error (.payloadTooLarge payload.length)

/-- The tag of a command. -/
def tag : Command → Tag
  | .read _ => .read
  | .write .. => .write
  | .jump _ => .jump

/-- What a command carries behind its header. -/
def payload : Command → Bytes
  | .write _ p => p.bytes
  | _ => []

/-- The header of a command as it is sent. -/
def header : Command → Bytes
  | .read h => h.encode
  | .write address p => BlockHeader.encode ⟨p.length, address⟩
  | .jump h => h.encode

/-- A command as it is sent. -/
def encode (c : Command) : Bytes :=
  c.tag.byte :: (c.header ++ c.payload)

/-- How many bytes the board sends back when it did what was asked. -/
def answerLength : Command → Nat
  | .read h => h.length.toNat
  | .write .. => 1
  | .jump _ => 1

/-- The `length` low-order bytes of a value, which must be one to eight. -/
def valueBytes (value : UInt64) (length : Nat) : Except Fault Bytes :=
  if 1 ≤ length ∧ length ≤ 8 then .ok (BigEndian.encode length value.toNat)
  else .error (.immediateLength length)

/-- The length field of a header can count the bytes of a value. -/
theorem countable_of_value (value : UInt64) {length : Nat} (few : length ≤ 8) :
    (BigEndian.encode length value.toNat).length < UInt32.size := by
  rw [BigEndian.length_encode]
  exact Nat.lt_of_le_of_lt few (by decide)

end Command

end BootHost
