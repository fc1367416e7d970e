import BootHost.Text.Hex

/-!
# The boot loader's signals

What the two sides say to each other outside of commands. A board that waits for its host repeats
the byte `ready`. The host greets it once with `magic`, and the board acknowledges the greeting,
and later each write and jump, with a single byte, its `Answer`.
-/

namespace BootHost

namespace Protocol

/-- Repeated by the board while it waits, and for a little while after the greeting. -/
def ready : UInt8 := 0x41

/-- The greeting, sent once by the host. -/
def magic : Bytes := [0x47, 0x4F, 0x42, 0x45, 0x41, 0x52, 0x53, 0x21]

/-- The answer of a board that did what was asked. -/
def ack : UInt8 := 0x59

/-- The answer of a board that refuses; it counts like any other byte but `ack`. -/
def nack : UInt8 := 0x4E

/-- The largest payload of one write. -/
def maxChunk : Nat := 0xFFFFF

end Protocol

/-- The one-byte answer of the board to the greeting, a write or a jump. -/
inductive Answer where
  | ack
  | nack
  | other (byte : UInt8)
  deriving DecidableEq

namespace Answer

/-- Reads an answer. -/
def ofByte (b : UInt8) : Answer :=
  if b = Protocol.ack then .ack else if b = Protocol.nack then .nack else .other b

/-- An answer in words. -/
def text : Answer → String
  | .ack => "ACK ('Y')"
  | .nack => "NACK ('N')"
  | .other b => Text.Hex.markedByte b

end Answer

/-- What the host waits for when it reads an answer. -/
inductive Stage where
  | nock
  | write
  | jump
  deriving DecidableEq

/-- A stage in words. -/
def Stage.text : Stage → String
  | .nock => "nock"
  | .write => "write"
  | .jump => "jump"

/-- How far the host and the board have come with each other. -/
inductive Phase where
  | idle
  | awaitingBoard
  | nocking
  | established
  | failed
  deriving DecidableEq

/-- A phase in words. -/
def Phase.text : Phase → String
  | .idle => "idle"
  | .awaitingBoard => "awaiting the DUT"
  | .nocking => "nocking"
  | .established => "established"
  | .failed => "failed"

end BootHost
